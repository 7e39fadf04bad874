import XrtcServer.Signaling.Worker

/-!
# How a request ends

`_process_request` catches the exceptions of jsoncpp where it looks up a field, and does not where
the body is parsed. The file says once what it can lead to: an exception, a refusal, a message to
the RTC server that names the connection, or a reply.
-/

namespace XrtcServer.Signaling
open XrtcServer.Base SignalingWorker

variable {json : JsonLib} {notify : Nat → Bool} {w : SignalingWorker} {p : Addr}
  {c : TCPConnection} {header body : Bytes} {cmdno : Int}

/-- A handler finds no fields and does nothing, or sends one message. -/
inductive Hands (notify : Nat → Bool) (w : SignalingWorker) (C : Sent → Prop) :
    Int × SignalingWorker → Prop
  | nothing : Hands notify w C (-1, w)
  | sent (m : Sent) (h : C m) : Hands notify w C (w.sendRtcMsg notify m)

/-- The message asks for an offer and names the connection `c` at `p`, whose request had this
header. -/
structure NamesConn (p : Addr) (c : TCPConnection) (header : Bytes) (cmdno : Int) (m : Sent) :
    Prop where
  cmdno : m.msg.cmdno = cmdno
  worker : m.msg.worker = true
  conn : m.msg.conn = some p
  fd : m.msg.fd = c.fd
  sender : m.sender = c.serial
  header : m.header = header

section handlers
variable {root : json.Value} {logId : Nat}

lemma hands_processOffer : Hands notify w (NamesConn p c header cmdno)
    (processOffer json notify cmdno w p c header root logId) := by
  unfold processOffer
  dsimp only
  split
  · exact .nothing
  · exact .sent _ ⟨rfl, rfl, rfl, rfl, rfl, rfl⟩

lemma hands_processStop : Hands notify w (·.msg.conn = none)
    (processStop json notify cmdno w c header root logId) := by
  unfold processStop
  dsimp only
  split
  · exact .nothing
  · exact .sent _ rfl

lemma hands_processAnswer : Hands notify w (·.msg.conn = none)
    (processAnswer json notify w c header root logId) := by
  unfold processAnswer
  dsimp only
  split
  · exact .nothing
  · exact .sent _ rfl

end handlers

/-- The number of the command in a body. -/
def commandOf (json : JsonLib) (body : Bytes) : Except JsonException Int := do
  let (root, _) ← json.parse body
  let field ← json.index root "cmdno"
  json.asInt field

/-- What `_process_request` can lead to. -/
inductive Handled (json : JsonLib) (notify : Nat → Bool) (p : Addr) (c : TCPConnection)
    (w : SignalingWorker) (header body : Bytes) :
    Except JsonException (Int × SignalingWorker) → Prop
  | threw {e : JsonException} (h : json.parse body = .error e) :
      Handled json notify p c w header body (.error e)
  | refused (h : ∃ root, json.parse body = .ok root) :
      Handled json notify p c w header body (.ok (-1, w))
  | asked {cmdno : Int} {r : Int × SignalingWorker} (hcmd : commandOf json body = .ok cmdno)
      (hoffer : cmdno = cmdnoPush ∨ cmdno = cmdnoPull)
      (h : Hands notify w (NamesConn p c header cmdno) r) :
      Handled json notify p c w header body (.ok r)
  | replied {r : Int × SignalingWorker} (hparse : ∃ root, json.parse body = .ok root)
      (h : Hands notify w (·.msg.conn = none) r) :
      Handled json notify p c w header body
        (.ok (0, r.2.addReply p c (buildReply header (json.write (requestResult r.1)))))

theorem handled_processRequest (json : JsonLib) (notify : Nat → Bool) (p : Addr)
    (c : TCPConnection) (w : SignalingWorker) (header body : Bytes) :
    Handled json notify p c w header body (processRequest json notify p c w header body) := by
  unfold processRequest
  cases hparse : json.parse body with
  | error e => exact .threw hparse
  | ok x =>
    obtain ⟨root, err⟩ := x
    have hparsed : ∃ root, json.parse body = .ok root := ⟨_, hparse⟩
    dsimp only [bind, Except.bind]
    split
    · exact .refused hparsed
    · split
      · exact .refused hparsed
      · rename_i cmdno hcmd
        have hcommand : commandOf json body = .ok cmdno := by
          rw [commandOf, hparse]
          exact hcmd
        split
        · rename_i hpush
          exact .asked (hpush ▸ hcommand) (.inl rfl) hands_processOffer
        · split
          · rename_i hpull
            exact .asked (hpull ▸ hcommand) (.inr rfl) hands_processOffer
          · have hreply : ∀ {r}, Hands notify w (·.msg.conn = none) r →
                Handled json notify p c w header body (.ok (0,
                  r.2.addReply p c (buildReply header (json.write (requestResult r.1))))) :=
              fun h => .replied hparsed h
            split
            · exact hreply hands_processStop
            · split
              · exact hreply hands_processStop
              · split
                · exact hreply hands_processAnswer
                · exact hreply .nothing

/-- One call of `_add_reply` for the object `c` at `p` is all that differs between two heaps. -/
def Queues (heap heap' : Addr → Option TCPConnection) (p : Addr) (c : TCPConnection) (r : Reply) :
    Prop :=
  heap' = Function.update heap p
    (some { c with replyList := c.replyList ++ [r], writing := true })

lemma queues_addReply {w₀ : SignalingWorker} {r : Reply} (h : w₀.heap = w.heap) :
    Queues w.heap (w₀.addReply p c r).heap p c r := by
  rw [← h]
  rfl

/-- One reply was queued on the connection `c` at `p`, or the command was PUSH or PULL, none was
queued and one message that names the connection was sent. -/
def Concluded (json : JsonLib) (p : Addr) (c : TCPConnection) (w : SignalingWorker)
    (header body : Bytes) (w' : SignalingWorker) : Prop :=
  (∃ reply, Queues w.heap w'.heap p c reply) ∨
    ∃ cmdno m, commandOf json body = .ok cmdno ∧ (cmdno = cmdnoPush ∨ cmdno = cmdnoPull) ∧
      NamesConn p c header cmdno m ∧ w'.heap = w.heap ∧ w'.rtcMsgs = w.rtcMsgs ++ [m] ∧
      w'.sentCount = w.sentCount + 1

/-- A request with this body ends with 0 or -1, and with 0 only where it was concluded. -/
def Settles (json : JsonLib) (notify : Nat → Bool) (body : Bytes) : Prop :=
  ∀ p c w header, ∃ ret w', processRequest json notify p c w header body = .ok (ret, w') ∧
    (ret = 0 ∨ ret = -1) ∧ (ret = 0 → Concluded json p c w header body w')

lemma Hands.heap {C : Sent → Prop} {r : Int × SignalingWorker} (h : Hands notify w C r) :
    r.2.heap = w.heap := by
  cases h <;> rfl

/-- A request settles if and only if the parser does not throw at its body. -/
theorem settles_iff (json : JsonLib) (notify : Nat → Bool) (body : Bytes) :
    Settles json notify body ↔ ∃ root, json.parse body = .ok root := by
  constructor
  · intro h
    obtain ⟨ret, w', hr, -⟩ := h 0 { fd := 0, serial := 0, lastInteraction := 0 } initial []
    obtain ⟨root, hparse, -⟩ := bind_eq_ok.mp hr
    exact ⟨root, hparse⟩
  · intro hparse p c w header
    have hr := handled_processRequest json notify p c w header body
    generalize processRequest json notify p c w header body = r at hr
    cases hr with
    | threw he =>
      obtain ⟨root, hroot⟩ := hparse
      cases he.symm.trans hroot
    | refused => exact ⟨-1, w, rfl, .inr rfl, fun h => by cases h⟩
    | asked hcmd hoffer hands =>
      cases hands with
      | nothing => exact ⟨-1, w, rfl, .inr rfl, fun h => by cases h⟩
      | sent m hm =>
        refine ⟨_, _, rfl, ?_, fun _ => .inr ⟨_, m, hcmd, hoffer, hm, rfl, rfl, rfl⟩⟩
        split
        · exact .inl rfl
        · exact .inr rfl
    | replied _ hands =>
      exact ⟨0, _, rfl, .inl rfl, fun _ => .inl ⟨_, queues_addReply hands.heap⟩⟩

/-- How deep jsoncpp lets values nest. -/
def stackLimit : Nat := 1000

/-- A library that knows nothing but opening brackets. -/
def bracketJson : JsonLib where
  Value := Unit
  parse text :=
    if stackLimit ≤ (text.takeWhile (· = 91)).length then .error .runtimeError
    else .ok ((), [101])
  index _ _ := .error .logicError
  asInt _ := .error .logicError
  asUInt64 _ := .error .logicError
  asString _ := .error .logicError
  write _ := []

/-- A body of brackets that nest one deeper is enough to end the program. -/
theorem deepArray_not_settles :
    ¬ Settles bracketJson (fun _ => true) (List.replicate (stackLimit + 1) 91) := by
  intro h
  obtain ⟨ret, w', hr, -⟩ := h 0 { fd := 0, serial := 0, lastInteraction := 0 } initial []
  obtain ⟨root, hparse, -⟩ := bind_eq_ok.mp hr
  have hthrow : bracketJson.parse (List.replicate (stackLimit + 1) 91) = .error .runtimeError := by
    simp [bracketJson]
  cases hthrow.symm.trans hparse

end XrtcServer.Signaling
