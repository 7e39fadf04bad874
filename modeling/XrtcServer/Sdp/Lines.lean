import XrtcServer.Sdp.Parser

/-!
# Lines and their endings

The parser splits a text at each line feed, and if CR LF stands anywhere in it, it takes the last
character from every piece.
-/

namespace XrtcServer.Sdp
open XrtcServer.Base

variable {line x : Text} {lines : List Text} {dtlsTransport : Text → Bool}

inductive LineEnding
  | lf
  | crlf
  deriving DecidableEq, Repr

namespace LineEnding

def text : LineEnding → Text
  | lf => "\n".toList
  | crlf => "\r\n".toList

/-- A line that the ending ends. Before a line feed alone, a CR would be a part of the ending. -/
def IsLine (e : LineEnding) (line : Text) : Prop :=
  '\n' ∉ line ∧ (e = lf → line.getLast? ≠ some '\r')

instance (e : LineEnding) : DecidablePred e.IsLine := fun _ => inferInstanceAs (Decidable (_ ∧ _))

end LineEnding

/-- The text of lines, each of which has its ending. -/
def terminated (e : LineEnding) (lines : List Text) : Text := lines.flatMap (· ++ e.text)

/-- A line that is not empty and has no line break in it. -/
def ProperLine (l : Text) : Prop := l ≠ [] ∧ '\r' ∉ l ∧ '\n' ∉ l

instance : DecidablePred ProperLine := fun _ => inferInstanceAs (Decidable (_ ∧ _ ∧ _))

lemma ProperLine.isLine (h : ProperLine line) (e : LineEnding) : e.IsLine line :=
  ⟨h.2.2, fun _ hlast => h.2.1 (List.mem_of_getLast? hlast)⟩

lemma tokenize_of_not_mem (hx : '\n' ∉ x) : tokenize '\n' x = [x].filter (· ≠ []) := by
  rw [tokenize, split_of_not_mem hx]

/-- There is no CR LF in a text of lines that end in line feeds. -/
lemma contains_terminated_lf (h : ∀ l ∈ lines, LineEnding.lf.IsLine l) (hx : '\n' ∉ x) :
    contains (terminated .lf lines ++ x) "\r\n".toList = false := by
  rw [Bool.eq_false_iff, ne_eq, contains_iff]
  induction lines with
  | nil => exact fun h => hx (h.subset (by decide))
  | cons l lines ih =>
    rw [List.forall_mem_cons] at h
    intro hcrlf
    have htext : terminated .lf (l :: lines) ++ x = l ++ '\n' :: (terminated .lf lines ++ x) := by
      simp [terminated, LineEnding.text]
    rw [htext] at hcrlf
    exact ih h.2 (infix_of_infix_append_cons (by decide) h.1.1 (h.1.2 rfl) hcrlf)

/-- The lines of a text, and what comes after the last ending. -/
lemma sdpLines_lf (h : ∀ l ∈ lines, LineEnding.lf.IsLine l) (hx : '\n' ∉ x) :
    sdpLines (terminated .lf lines ++ x) = (lines ++ [x]).filter (· ≠ []) := by
  rw [sdpLines, if_neg (by rw [contains_terminated_lf h hx]; decide), List.filter_append,
    ← tokenize_of_not_mem hx]
  exact tokenize_lines_append (fun l hl => (h l hl).1) x

/-- With CR LF, what comes after the last ending loses a character that is no part of an ending. -/
lemma sdpLines_crlf (hne : lines ≠ []) (h : ∀ l ∈ lines, '\n' ∉ l) (hx : '\n' ∉ x) :
    sdpLines (terminated .crlf lines ++ x) =
      lines ++ ([x].filter (· ≠ [])).map List.dropLast := by
  have htext : terminated .crlf lines = (lines.map (· ++ ['\r'])).flatMap (· ++ ['\n']) := by
    rw [terminated, List.flatMap_map]
    exact List.flatMap_congr fun l _ => (List.append_assoc l ['\r'] ['\n']).symm
  have hbreak : contains (terminated .crlf lines ++ x) "\r\n".toList = true := by
    obtain ⟨l, lines, rfl⟩ := List.exists_cons_of_ne_nil hne
    rw [contains_iff]
    exact ⟨l, terminated .crlf lines ++ x, by simp [terminated, LineEnding.text]⟩
  have hfilter : (lines.map (· ++ ['\r'])).filter (· ≠ []) = lines.map (· ++ ['\r']) := by
    refine List.filter_eq_self.mpr fun field hfield => ?_
    obtain ⟨l, -, rfl⟩ := List.mem_map.mp hfield
    simp
  have hmem : ∀ field ∈ lines.map (· ++ ['\r']), '\n' ∉ field := by
    intro field hfield
    obtain ⟨l, hl, rfl⟩ := List.mem_map.mp hfield
    rw [List.mem_append, List.mem_singleton]
    exact fun hc => hc.elim (h l hl) (by decide)
  rw [sdpLines, if_pos hbreak, htext, tokenize_lines_append hmem, hfilter, tokenize_of_not_mem hx,
    List.map_append, List.map_map]
  exact congrArg (· ++ _) ((List.map_congr_left fun l _ => List.dropLast_concat).trans
    (List.map_id _))

lemma sdpLines_terminated_lf (h : ∀ l ∈ lines, LineEnding.lf.IsLine l) :
    sdpLines (terminated .lf lines) = lines.filter (· ≠ []) := by
  rw [← List.append_nil (terminated .lf lines), sdpLines_lf h List.not_mem_nil, List.filter_append]
  exact List.append_nil _

lemma sdpLines_terminated_crlf (h : ∀ l ∈ lines, '\n' ∉ l) :
    sdpLines (terminated .crlf lines) = lines := by
  by_cases hne : lines = []
  · rw [hne]
    rfl
  · rw [← List.append_nil (terminated .crlf lines), sdpLines_crlf hne h List.not_mem_nil]
    exact List.append_nil _

end XrtcServer.Sdp
