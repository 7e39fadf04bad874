import XrtcServer.Base.Bytes

/-!
# The actions of the gateway

The package `action` answers the five requests of the signaling interface: it reads the parameters
out of the form, calls the backend and writes one JSON response. An `uid` that is not a number and
an `uid` of zero are refused in one branch, which asks the error of the parse for its text. There is
no such error where the number is zero.
-/

namespace XrtcServer.Signaling.Action
open XrtcServer.Base

/-! ## The number in a parameter -/

inductive ParseErr
  | errSyntax
  | errRange
  deriving DecidableEq, Repr

structure NumError where
  num : Bytes
  err : ParseErr
  deriving DecidableEq, Repr

def maxUint64 : UInt64 := 18446744073709551615

/-- The least number that ten times itself is too large. -/
def cutoff : UInt64 := maxUint64 / 10 + 1

def lower (c : UInt8) : UInt8 := c ||| 32

def digit (c : UInt8) : Option UInt8 :=
  if 48 ≤ c ∧ c ≤ 57 then some (c - 48)
  else if 97 ≤ lower c ∧ lower c ≤ 122 then some (lower c - 97 + 10)
  else none

/-- The loop of `strconv.ParseUint` with the base 10, ahead of the octets `s`. -/
def parseDigits (n : UInt64) : Bytes → UInt64 × Option ParseErr
  | [] => (n, none)
  | c :: s =>
    match digit c with
    | none => (0, some .errSyntax)
    | some d =>
      if d ≥ 10 then (0, some .errSyntax)
      else if n ≥ cutoff then (maxUint64, some .errRange)
      else
        let n := n * 10
        let n1 := n + d.toUInt64
        if n1 < n then (maxUint64, some .errRange) else parseDigits n1 s

/-- `strconv.ParseUint(s, 10, 64)` -/
def parseUint (s : Bytes) : UInt64 × Option NumError :=
  if s = [] then (0, some ⟨s, .errSyntax⟩)
  else
    let (n, err) := parseDigits 0 s
    (n, err.map (⟨s, ·⟩))

/-! ## Requests and responses -/

/-- `r.Form`: a key that is there has a value at least, one that is not has none. -/
abbrev Form := String → List Bytes

/-- The first value of a key, or the empty string. -/
def Form.value (form : Form) (key : String) : Bytes := (form key).headD []

def cmdnoPush : Int := 1
def cmdnoPull : Int := 2
def cmdnoAnswer : Int := 3
def cmdnoStopPush : Int := 4
def cmdnoStopPull : Int := 5

structure XrtcPushReq where
  cmdno : Int
  uid : UInt64
  streamName : Bytes
  audio : Int := 0
  video : Int := 0
  deriving DecidableEq, Repr

abbrev XrtcPullReq := XrtcPushReq

structure XrtcSendAnswerReq where
  cmdno : Int
  uid : UInt64
  streamName : Bytes
  answer : Bytes
  type : Bytes
  deriving DecidableEq, Repr

inductive XrtcReq
  | push (req : XrtcPushReq)
  | pull (req : XrtcPullReq)
  | sendAnswer (req : XrtcSendAnswerReq)
  deriving DecidableEq, Repr

structure XrtcPushResp where
  errNo : Int := 0
  errMsg : Bytes := []
  offer : Bytes := []
  deriving DecidableEq, Repr

structure PushData where
  type : String
  sdp : Bytes
  deriving DecidableEq, Repr

structure ComHttpResp where
  errNo : Int
  errMsg : String
  data : Option PushData := none
  deriving DecidableEq, Repr

def paramErr : Int := -1
def networkErr : Int := -2

/-- The text of an error: `parse uid error:` with the text of the parse error, the text itself,
`backend process error` with the text of the error, `backend process error:` with the number. -/
inductive ErrText
  | parseUid (err : NumError)
  | text (s : String)
  | backend (err : Bytes)
  | backendErrNo (errNo : Int)
  deriving DecidableEq, Repr

/-- `comerrors.Errors` -/
structure Errors where
  errno : Int
  err : ErrText
  deriving DecidableEq, Repr

inductive Notice
  | errNo (errno : Int)
  | errMsg (err : ErrText)
  | resp (httpResp : ComHttpResp)
  deriving DecidableEq, Repr

/-- What `Execute` did: the calls of the backend, the notices of the logger, the responses by the
values whose JSON was written, and whether it panicked. -/
structure Served where
  calls : List XrtcReq := []
  notices : List Notice := []
  written : List ComHttpResp := []
  panicked : Bool := false
  deriving DecidableEq, Repr

def writeJsonErrorResponse (cerr : Errors) (s : Served) : Served :=
  { s with
    notices := s.notices ++ [.errNo cerr.errno, .errMsg cerr.err]
    written := s.written ++ [{ errNo := cerr.errno, errMsg := "process error" }] }

/-! ## The actions -/

section execute
variable (call : XrtcReq → Except Bytes XrtcPushResp) (form : Form)

/-- What the five `Execute` have in common. `required` has the strings that may not be empty, with
the texts of their errors, and `call` is what `framework.Call` comes to. -/
def executeWith (required : List (String × String)) (request : UInt64 → Form → XrtcReq)
    (response : XrtcPushResp → ComHttpResp) : Served :=
  let s : Served := {}
  let (uid, err) := parseUint (form.value "uid")
  if err.isSome ∨ uid ≤ 0 then
    match err with
    | some err => writeJsonErrorResponse ⟨paramErr, .parseUid err⟩ s
    -- `err.Error()` of a nil error
    | none => { s with panicked := true }
  else
    match required.find? fun (key, _) => form.value key = [] with
    | some (_, text) => writeJsonErrorResponse ⟨paramErr, .text text⟩ s
    | none =>
      let req := request uid form
      let s := { s with calls := s.calls ++ [req] }
      match call req with
      | .error err => writeJsonErrorResponse ⟨networkErr, .backend err⟩ s
      | .ok resp =>
        if resp.errNo ≠ 0 then
          writeJsonErrorResponse ⟨networkErr, .backendErrNo resp.errNo⟩ s
        else
          let httpResp := response resp
          { s with notices := s.notices ++ [.resp httpResp], written := s.written ++ [httpResp] }

/-- `audio` and `video`: anything but nothing and `0` means 1. -/
def flag (value : Bytes) : Int := if value = [] ∨ value = [48] then 0 else 1

def success : ComHttpResp := { errNo := 0, errMsg := "success" }

def streamNameRequired : String × String := ("streamName", "streamName is null")

def pushAction : Served :=
  executeWith call form [streamNameRequired]
    (fun uid form => .push {
      cmdno := cmdnoPush
      uid
      streamName := form.value "streamName"
      audio := flag (form.value "audio")
      video := flag (form.value "video") })
    (fun resp => { success with data := some { type := "offer", sdp := resp.offer } })

def pullAction : Served :=
  executeWith call form [streamNameRequired]
    (fun uid form => .pull {
      cmdno := cmdnoPull
      uid
      streamName := form.value "streamName"
      audio := flag (form.value "audio")
      video := flag (form.value "video") })
    (fun resp => { success with data := some { type := "offer", sdp := resp.offer } })

def stopPushAction : Served :=
  executeWith call form [streamNameRequired]
    (fun uid form => .push {
      cmdno := cmdnoStopPush
      uid
      streamName := form.value "streamName" })
    (fun _ => success)

def stopPullAction : Served :=
  executeWith call form [streamNameRequired]
    (fun uid form => .push {
      cmdno := cmdnoStopPull
      uid
      streamName := form.value "streamName" })
    (fun _ => success)

def sendAnswerAction : Served :=
  executeWith call form
    [streamNameRequired, ("answer", "answer is null"), ("type", "strType is null")]
    (fun uid form => .sendAnswer {
      cmdno := cmdnoAnswer
      uid
      streamName := form.value "streamName"
      answer := form.value "answer"
      type := form.value "type" })
    (fun _ => success)

end execute

/-- The actions of the routes `push`, `pull`, `stoppush`, `stoppull` and `sendanswer`. -/
inductive ActionInterface
  | push
  | pull
  | stopPush
  | stopPull
  | sendAnswer
  deriving DecidableEq, Repr

def ActionInterface.execute (action : ActionInterface)
    (call : XrtcReq → Except Bytes XrtcPushResp) (form : Form) : Served :=
  match action with
  | .push => pushAction call form
  | .pull => pullAction call form
  | .stopPush => stopPushAction call form
  | .stopPull => stopPullAction call form
  | .sendAnswer => sendAnswerAction call form

/-! ## What a decimal is read as -/

variable {n m : UInt64} {c : UInt8} {s : Bytes}

def IsDigit (c : UInt8) : Prop := 48 ≤ c ∧ c ≤ 57

/-- The value of decimal digits that follow the value `n`. -/
def valueFrom (n : Nat) (s : Bytes) : Nat := s.foldl (fun n c => n * 10 + (c.toNat - 48)) n

lemma le_valueFrom (n : Nat) (s : Bytes) : n ≤ valueFrom n s := by
  induction s generalizing n with
  | nil => exact Nat.le_refl n
  | cons c s ih =>
    have hrest := ih (n * 10 + (c.toNat - 48))
    rw [valueFrom, List.foldl_cons]
    exact Nat.le_trans (by omega) hrest

/-- A character is a digit of the base 10 or makes the loop return. -/
lemma digit_spec (c : UInt8) :
    (∃ d, digit c = some d ∧ d < 10 ∧ IsDigit c ∧ d.toNat = c.toNat - 48) ∨
      ((∀ d, digit c = some d → 10 ≤ d) ∧ ¬ IsDigit c) := by
  by_cases hc : 48 ≤ c ∧ c ≤ 57
  · have hlow : 48 ≤ c.toNat := UInt8.le_iff_toNat_le.mp hc.1
    have hhigh : c.toNat ≤ 57 := UInt8.le_iff_toNat_le.mp hc.2
    have hd : (c - 48).toNat = c.toNat - 48 := UInt8.toNat_sub_of_le c 48 hc.1
    refine Or.inl ⟨c - 48, if_pos hc, UInt8.lt_iff_toNat_lt.mpr ?_, hc, hd⟩
    rw [hd]
    exact (by omega : c.toNat - 48 < 10)
  · refine Or.inr ⟨fun d hd => ?_, hc⟩
    rw [digit, if_neg hc] at hd
    split at hd
    · rename_i hletter
      have hlow : 97 ≤ (lower c).toNat := UInt8.le_iff_toNat_le.mp hletter.1
      have hhigh : (lower c).toNat ≤ 122 := UInt8.le_iff_toNat_le.mp hletter.2
      have hsub : (lower c - 97).toNat = (lower c).toNat - 97 :=
        UInt8.toNat_sub_of_le (lower c) 97 hletter.1
      cases hd
      rw [UInt8.le_iff_toNat_le, UInt8.toNat_add, hsub]
      change 10 ≤ ((lower c).toNat - 97 + 10) % 256
      omega
    · cases hd

lemma toNat_step {d : UInt8} (h : n.toNat * 10 + d.toNat < 2 ^ 64) :
    (n * 10 + d.toUInt64).toNat = n.toNat * 10 + d.toNat := by
  rw [UInt64.toNat_add, UInt64.toNat_mul, UInt8.toNat_toUInt64]
  change (n.toNat * 10 % 2 ^ 64 + d.toNat) % 2 ^ 64 = _
  omega

/-- One turn of the loop on a digit: the two tests together find the numbers of more than 64
bits. -/
lemma parseDigits_cons {d : UInt8} (hd : digit c = some d) (hlt : d < 10) :
    parseDigits n (c :: s) =
      if n.toNat * 10 + d.toNat < 2 ^ 64 then parseDigits (n * 10 + d.toUInt64) s
      else (maxUint64, some .errRange) := by
  have hten : d.toNat < 10 := UInt8.lt_iff_toNat_lt.mp hlt
  have hcutoff : n ≥ cutoff ↔ 1844674407370955162 ≤ n.toNat := UInt64.le_iff_toNat_le
  rw [parseDigits, hd]
  dsimp only
  rw [if_neg (by rwa [ge_iff_le, UInt8.not_le])]
  by_cases hbig : 1844674407370955162 ≤ n.toNat
  · rw [if_pos (hcutoff.mpr hbig), if_neg (by omega)]
  · rw [if_neg (mt hcutoff.mp hbig)]
    have hmul : (n * 10).toNat = n.toNat * 10 := by
      rw [UInt64.toNat_mul]
      exact Nat.mod_eq_of_lt (by omega : n.toNat * 10 < 2 ^ 64)
    have hadd : (n * 10 + d.toUInt64).toNat = (n.toNat * 10 + d.toNat) % 2 ^ 64 := by
      rw [UInt64.toNat_add, hmul, UInt8.toNat_toUInt64]
    have hwrap : n * 10 + d.toUInt64 < n * 10 ↔ ¬ n.toNat * 10 + d.toNat < 2 ^ 64 := by
      rw [UInt64.lt_iff_toNat_lt, hadd, hmul]
      omega
    rw [if_congr hwrap rfl rfl, ite_not]

/-- The loop ends without an error exactly on digits whose value fits. -/
lemma parseDigits_eq_iff :
    parseDigits n s = (m, none) ↔ (∀ c ∈ s, IsDigit c) ∧ valueFrom n.toNat s = m.toNat := by
  induction s generalizing n with
  | nil => simp [parseDigits, valueFrom, UInt64.toNat_inj]
  | cons c s ih =>
    rw [List.forall_mem_cons, valueFrom, List.foldl_cons, ← valueFrom]
    rcases digit_spec c with ⟨d, hd, hlt, hdigit, hvalue⟩ | ⟨hnone, hdigit⟩
    · rw [parseDigits_cons hd hlt, ← hvalue]
      by_cases hfits : n.toNat * 10 + d.toNat < 2 ^ 64
      · rw [if_pos hfits, ih, toNat_step hfits]
        simp only [hdigit, true_and]
      · rw [if_neg hfits]
        have hle := le_valueFrom (n.toNat * 10 + d.toNat) s
        have hm := m.toNat_lt
        refine iff_of_false (fun h => nomatch h) (fun h => ?_)
        have hvalue := h.2
        omega
    · refine iff_of_false (fun h => ?_) (fun h => hdigit h.1.1)
      rw [parseDigits] at h
      split at h
      · cases h
      · rename_i d hd
        rw [if_pos (hnone d hd)] at h
        cases h

/-- `text` is a number of 64 bits in decimal. -/
structure IsDecimal (text : Bytes) (n : UInt64) : Prop where
  ne_nil : text ≠ []
  digits : ∀ c ∈ text, IsDigit c
  value : valueFrom 0 text = n.toNat

lemma parseUint_eq_none_iff : parseUint s = (n, none) ↔ IsDecimal s n := by
  unfold parseUint
  by_cases hs : s = []
  · rw [if_pos hs]
    exact iff_of_false (fun h => nomatch h) (fun h => h.ne_nil hs)
  · rw [if_neg hs]
    dsimp only
    rw [Prod.mk.injEq, Option.map_eq_none_iff, ← Prod.mk.injEq]
    refine parseDigits_eq_iff.trans ?_
    exact ⟨fun h => ⟨hs, h.1, h.2⟩, fun h => ⟨h.digits, h.value⟩⟩

lemma IsDecimal.unique (h : IsDecimal s n) (h' : IsDecimal s m) : n = m :=
  UInt64.toNat_inj.mp (h.value.symm.trans h'.value)

lemma valueFrom_eq_zero_iff {k : Nat} :
    valueFrom k s = 0 ↔ k = 0 ∧ ∀ c ∈ s, c.toNat ≤ 48 := by
  induction s generalizing k with
  | nil => simp [valueFrom]
  | cons c s ih =>
    rw [valueFrom, List.foldl_cons, ← valueFrom, ih, List.forall_mem_cons, ← and_assoc]
    refine and_congr_left fun _ => ?_
    omega

/-- The decimals of zero. -/
lemma isDecimal_zero_iff : IsDecimal s 0 ↔ s ≠ [] ∧ ∀ c ∈ s, c = 48 := by
  constructor
  · intro h
    obtain ⟨-, hsmall⟩ := valueFrom_eq_zero_iff.mp h.value
    refine ⟨h.ne_nil, fun c hc => ?_⟩
    exact UInt8.le_antisymm (UInt8.le_iff_toNat_le.mpr (hsmall c hc)) (h.digits c hc).1
  · rintro ⟨hs, hzero⟩
    refine ⟨hs, fun c hc => ?_, valueFrom_eq_zero_iff.mpr ⟨rfl, fun c hc => ?_⟩⟩
    · rw [hzero c hc]
      exact ⟨UInt8.le_refl _, by decide⟩
    · rw [hzero c hc]
      exact Nat.le_refl 48

/-! ## What an action does -/

section answers
variable {form : Form} {call : XrtcReq → Except Bytes XrtcPushResp}
  {required : List (String × String)} {request : UInt64 → Form → XrtcReq}
  {response : XrtcPushResp → ComHttpResp}

/-- The values of the form that a request is made of. -/
structure Accepted (form : Form) (required : List String) (uid : UInt64) : Prop where
  uid_decimal : IsDecimal (form.value "uid") uid
  uid_pos : 0 < uid
  strings : ∀ key ∈ required, form.value key ≠ []

/-- `Execute` returned after it had written one response, and it called the backend where the form
is accepted, once and with the request that the form makes. -/
structure Answers (form : Form) (required : List String) (request : UInt64 → XrtcReq)
    (s : Served) : Prop where
  returns : s.panicked = false
  writes : s.written.length = 1
  calls : ∀ req, req ∈ s.calls ↔ ∃ uid, Accepted form required uid ∧ req = request uid
  once : s.calls.length ≤ 1

lemma answers_error {keys : List String} {cerr : Errors} (hnot : ∀ uid, ¬ Accepted form keys uid)
    (request : UInt64 → XrtcReq) :
    Answers form keys request (writeJsonErrorResponse cerr {}) where
  returns := rfl
  writes := rfl
  calls _ := iff_of_false (fun h => nomatch h) fun ⟨uid, haccepted, _⟩ => hnot uid haccepted
  once := Nat.zero_le 1

lemma answers_called {keys : List String} {request : UInt64 → XrtcReq} {uid : UInt64} {s : Served}
    (haccepted : Accepted form keys uid) (hcalls : s.calls = [request uid])
    (hwritten : s.written.length = 1) (hreturns : s.panicked = false) :
    Answers form keys request s where
  returns := hreturns
  writes := hwritten
  calls req := by
    rw [hcalls, List.mem_singleton]
    refine ⟨fun h => ⟨uid, haccepted, h⟩, ?_⟩
    rintro ⟨n, haccepted', rfl⟩
    rw [haccepted'.uid_decimal.unique haccepted.uid_decimal]
  once := Nat.le_of_eq (by rw [hcalls, List.length_singleton])

/-- Zero is refused in the branch that reads the error. -/
lemma executeWith_of_zero (h : IsDecimal (form.value "uid") 0) :
    executeWith call form required request response = { panicked := true } := by
  rw [executeWith, parseUint_eq_none_iff.mpr h]
  rfl

lemma answers_executeWith (h : ¬ IsDecimal (form.value "uid") 0) :
    Answers form (required.map Prod.fst) (request · form)
      (executeWith call form required request response) := by
  rcases hparse : parseUint (form.value "uid") with ⟨uid, _ | err⟩
  · have huid := parseUint_eq_none_iff.mp hparse
    have hpos : ¬ ((none : Option NumError).isSome = true ∨ uid ≤ 0) := by
      rintro (hsome | hle)
      · cases hsome
      · rw [UInt64.le_antisymm hle (UInt64.zero_le)] at huid
        exact h huid
    rw [executeWith, hparse]
    dsimp only
    rw [if_neg hpos]
    cases hfind : required.find? fun p => form.value p.1 = [] with
    | some p =>
      have hnull : form.value p.1 = [] := by simpa using List.find?_some hfind
      refine answers_error (fun n haccepted => ?_) _
      exact haccepted.strings p.1 (List.mem_map_of_mem (List.mem_of_find?_eq_some hfind)) hnull
    | none =>
      have haccepted : Accepted form (required.map Prod.fst) uid := by
        refine ⟨huid, UInt64.not_le.mp fun hle => hpos (Or.inr hle), fun key hkey => ?_⟩
        obtain ⟨p, hp, rfl⟩ := List.mem_map.mp hkey
        simpa using List.find?_eq_none.mp hfind p hp
      dsimp only
      split
      · exact answers_called haccepted rfl rfl rfl
      · split <;> exact answers_called haccepted rfl rfl rfl
  · have hnot : ∀ uid, ¬ Accepted form (required.map Prod.fst) uid := by
      intro n haccepted
      rw [parseUint_eq_none_iff.mpr haccepted.uid_decimal] at hparse
      cases hparse
    have hexecute : executeWith call form required request response =
        writeJsonErrorResponse ⟨paramErr, .parseUid err⟩ {} := by
      rw [executeWith, hparse]
      rfl
    rw [hexecute]
    exact answers_error hnot _

end answers

/-! ## The five actions -/

namespace ActionInterface

/-- The strings that may not be empty. -/
def required : ActionInterface → List String
  | .sendAnswer => ["streamName", "answer", "type"]
  | _ => ["streamName"]

/-- The request that carries the values of the form. -/
def carries (action : ActionInterface) (form : Form) (uid : UInt64) : XrtcReq :=
  match action with
  | .push => .push
    ⟨1, uid, form.value "streamName", flag (form.value "audio"), flag (form.value "video")⟩
  | .pull => .pull
    ⟨2, uid, form.value "streamName", flag (form.value "audio"), flag (form.value "video")⟩
  | .sendAnswer => .sendAnswer
    ⟨3, uid, form.value "streamName", form.value "answer", form.value "type"⟩
  | .stopPush => .push ⟨4, uid, form.value "streamName", 0, 0⟩
  | .stopPull => .push ⟨5, uid, form.value "streamName", 0, 0⟩

/-- What the interface promises of an action. -/
def Serves (action : ActionInterface) (form : Form) (s : Served) : Prop :=
  Answers form action.required (action.carries form) s

lemma execute_eq (action : ActionInterface) (call : XrtcReq → Except Bytes XrtcPushResp)
    (form : Form) :
    ∃ texts request response,
      action.execute call form = executeWith call form texts request response ∧
        texts.map Prod.fst = action.required ∧ (request · form) = action.carries form := by
  cases action with
  | push => exact ⟨_, _, _, show pushAction call form = _ from rfl, rfl, rfl⟩
  | pull => exact ⟨_, _, _, show pullAction call form = _ from rfl, rfl, rfl⟩
  | stopPush => exact ⟨_, _, _, show stopPushAction call form = _ from rfl, rfl, rfl⟩
  | stopPull => exact ⟨_, _, _, show stopPullAction call form = _ from rfl, rfl, rfl⟩
  | sendAnswer => exact ⟨_, _, _, show sendAnswerAction call form = _ from rfl, rfl, rfl⟩

/-- An action keeps its promise exactly if `uid` is not a decimal of zero. -/
theorem serves_iff (action : ActionInterface) (call : XrtcReq → Except Bytes XrtcPushResp)
    (form : Form) :
    action.Serves form (action.execute call form) ↔
      ¬ (form.value "uid" ≠ [] ∧ ∀ c ∈ form.value "uid", c = 48) := by
  obtain ⟨texts, request, response, hexecute, htexts, hrequest⟩ := execute_eq action call form
  rw [← isDecimal_zero_iff, hexecute, Serves, ← htexts]
  constructor
  · intro h hzero
    have hreturns := h.returns
    rw [executeWith_of_zero hzero] at hreturns
    cases hreturns
  · intro h
    have hanswers : Answers form (texts.map Prod.fst) (request · form)
        (executeWith call form texts request response) := answers_executeWith h
    rw [hrequest] at hanswers
    exact hanswers

/-- The form `uid=0&streamName=a`. -/
def zeroUid : Form
  | "uid" => [[48]]
  | "streamName" => [[97]]
  | _ => []

/-- The action pushes on the form `uid=0&streamName=a` and dereferences the nil error. -/
theorem zero_uid_panics :
    ¬ ActionInterface.push.Serves zeroUid
      (ActionInterface.push.execute (fun _ => .ok {}) zeroUid) := by
  intro h
  have hreturns := h.returns
  cases hreturns

end ActionInterface

end XrtcServer.Signaling.Action
