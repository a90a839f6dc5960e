import Mathlib.Data.List.Basic
import WasmHost.Fault
/-!
Diagnostics in messages.

A message shows a diagnostic below a header, with each of its lines behind an indent, or within its
own last line, where the first line of the diagnostic goes on with the text before it. No line is
lost or joined with another one, so that the diagnostic is read off the message again by taking the
indents away.
-/
namespace WasmHost

namespace Text

/-- The lines of a text: what stands before, between and behind its line breaks. -/
def lines (s : String) : List String := (s.toList.splitOn '\n').map String.ofList

/-- Lines as one text, a line break between any two. -/
def joinLines (ls : List String) : String := "\n".intercalate ls

/-- A line behind the indent of diagnostics. -/
def indented (line : String) : String := standardIndent ++ line

/-- A line without the characters that stand in the place of the indent. -/
def unindented (line : String) : String :=
  String.ofList (line.toList.drop standardIndent.toList.length)

/-- Changes the lines after the first. -/
def onContinuations (f : String → String) : List String → List String
  | [] => []
  | first :: others => first :: others.map f

section Chars

variable {cs l : List Char}

theorem intercalate_append_cons (pre first : List Char) (others : List (List Char)) :
    ['\n'].intercalate ((pre ++ first) :: others) =
      pre ++ ['\n'].intercalate (first :: others) := by
  cases others with
  | nil => simp
  | cons second others => simp

theorem break_not_mem_of_mem_splitOn (hl : l ∈ cs.splitOn '\n') : '\n' ∉ l := by
  -- by induction on the text; a break begins a new piece, and any other character joins the first
  induction cs generalizing l with
  | nil =>
    rw [List.splitOn_nil, List.mem_singleton] at hl
    rw [hl]
    exact List.not_mem_nil
  | cons c cs ih =>
    obtain ⟨first, others, hsplit⟩ := List.exists_cons_of_ne_nil (List.splitOn_ne_nil '\n' cs)
    have hfirst : '\n' ∉ first := ih (hsplit ▸ List.mem_cons_self)
    have hothers (k : List Char) (hk : k ∈ others) : '\n' ∉ k :=
      ih (hsplit ▸ List.mem_cons_of_mem _ hk)
    rw [List.splitOn_cons_eq_if_modifyHead, hsplit] at hl
    by_cases hc : c = '\n'
    · rw [if_pos (beq_iff_eq.mpr hc)] at hl
      rcases List.mem_cons.mp hl with rfl | hl
      · exact List.not_mem_nil
      · exact ih (hsplit ▸ hl)
    · rw [if_neg (mt beq_iff_eq.mp hc), List.modifyHead_cons] at hl
      rcases List.mem_cons.mp hl with rfl | hl
      · exact fun hmem => (List.mem_cons.mp hmem).elim (fun h => hc h.symm) hfirst
      · exact hothers l hl

-- Indentation puts the indent before each piece after a line break, and changes nothing else.
theorem indentChars_eq_intercalate (indent : List Char) {first : List Char}
    {others : List (List Char)} (hsplit : cs.splitOn '\n' = first :: others) :
    indentChars indent cs = ['\n'].intercalate (first :: others.map (indent ++ ·)) := by
  induction cs generalizing first others with
  | nil =>
    rw [List.splitOn_nil] at hsplit
    cases hsplit
    simp [indentChars]
  | cons c cs ih =>
    obtain ⟨next, rest, hnext⟩ := List.exists_cons_of_ne_nil (List.splitOn_ne_nil '\n' cs)
    rw [List.splitOn_cons_eq_if_modifyHead, hnext] at hsplit
    have htail := ih hnext
    by_cases hc : c = '\n'
    -- a line break: the piece before it is empty, and the next one gets the indent
    · rw [if_pos (beq_iff_eq.mpr hc)] at hsplit
      cases hsplit
      calc indentChars indent (c :: cs)
          = '\n' :: (indent ++ indentChars indent cs) := by simp [indentChars, hc]
        _ = '\n' :: (indent ++ ['\n'].intercalate (next :: rest.map (indent ++ ·))) := by rw [htail]
        _ = '\n' :: ['\n'].intercalate ((indent ++ next) :: rest.map (indent ++ ·)) := by
          rw [intercalate_append_cons]
        _ = ['\n'].intercalate ([] :: (next :: rest).map (indent ++ ·)) := by simp
    -- any other character belongs to the first piece
    · rw [if_neg (mt beq_iff_eq.mp hc), List.modifyHead_cons] at hsplit
      cases hsplit
      calc indentChars indent (c :: cs)
          = [c] ++ indentChars indent cs := by simp [indentChars, hc]
        _ = [c] ++ ['\n'].intercalate (next :: others.map (indent ++ ·)) := by rw [htail]
        _ = ['\n'].intercalate (([c] ++ next) :: others.map (indent ++ ·)) := by
          rw [intercalate_append_cons]

end Chars

theorem toList_leftInverse : Function.LeftInverse String.toList String.ofList :=
  fun _ => String.toList_ofList

theorem ofList_leftInverse : Function.LeftInverse String.ofList String.toList :=
  fun _ => String.ofList_toList

theorem lines_ne_nil (s : String) : lines s ≠ [] :=
  mt List.map_eq_nil_iff.mp (List.splitOn_ne_nil '\n' s.toList)

theorem break_not_mem_line {s line : String} (hline : line ∈ lines s) : '\n' ∉ line.toList := by
  obtain ⟨l, hl, rfl⟩ := List.mem_map.mp hline
  rw [String.toList_ofList]
  exact break_not_mem_of_mem_splitOn hl

theorem toList_joinLines (ls : List String) :
    (joinLines ls).toList = ['\n'].intercalate (ls.map String.toList) :=
  String.toList_intercalate

theorem joinLines_lines (s : String) : joinLines (lines s) = s := by
  apply String.toList_inj.mp
  have hmap : (lines s).map String.toList = s.toList.splitOn '\n' :=
    toList_leftInverse.list_map _
  rw [toList_joinLines, hmap, List.intercalate_splitOn]

theorem lines_joinLines {ls : List String} (hls : ls ≠ []) (hbreak : ∀ l ∈ ls, '\n' ∉ l.toList) :
    lines (joinLines ls) = ls := by
  -- splitting undoes joining, since the lines have no breaks themselves
  have hsplit :
      (['\n'].intercalate (ls.map String.toList)).splitOn '\n' = ls.map String.toList := by
    apply List.splitOn_intercalate
    · intro l hl
      obtain ⟨line, hline, rfl⟩ := List.mem_map.mp hl
      exact hbreak line hline
    · exact mt List.map_eq_nil_iff.mp hls
  rw [lines, toList_joinLines, hsplit]
  exact ofList_leftInverse.list_map ls

theorem unindented_leftInverse : Function.LeftInverse unindented indented := by
  intro line
  rw [unindented, indented, String.toList_append, List.drop_left, String.ofList_toList]

-- The indent has no line break, so an indented line is still one line.
theorem break_not_mem_indented {line : String} (hline : '\n' ∉ line.toList) :
    '\n' ∉ (indented line).toList := by
  rw [indented, String.toList_append, List.mem_append]
  exact not_or.mpr ⟨by decide, hline⟩

variable {f g : String → String} {ls : List String} {d : String}

theorem onContinuations_ne_nil (hls : ls ≠ []) : onContinuations f ls ≠ [] := by
  cases ls with
  | nil => exact absurd rfl hls
  | cons first others => exact List.cons_ne_nil _ _

theorem onContinuations_leftInverse (h : Function.LeftInverse g f) :
    Function.LeftInverse (onContinuations g) (onContinuations f) := by
  intro ls
  cases ls with
  | nil => rfl
  | cons first others => rw [onContinuations, onContinuations, h.list_map others]

/-- A diagnostic as it stands in a message: its lines, those after the first indented. -/
theorem indentDiagnostic_eq (d : String) :
    indentDiagnostic (some d) standardIndent = joinLines (onContinuations indented (lines d)) := by
  apply String.toList_inj.mp
  obtain ⟨first, others, hsplit⟩ :=
    List.exists_cons_of_ne_nil (List.splitOn_ne_nil '\n' d.toList)
  have hlines : (onContinuations indented (lines d)).map String.toList =
      first :: others.map (standardIndent.toList ++ ·) := by
    simp [lines, hsplit, onContinuations, indented, Function.comp_def]
  rw [toList_joinLines, hlines, ← indentChars_eq_intercalate _ hsplit]
  exact String.toList_ofList

theorem standardIndent_append_joinLines (hls : ls ≠ []) :
    standardIndent ++ joinLines (onContinuations indented ls) = joinLines (ls.map indented) := by
  obtain ⟨first, others, rfl⟩ := List.exists_cons_of_ne_nil hls
  apply String.toList_inj.mp
  rw [String.toList_append, toList_joinLines, toList_joinLines, onContinuations, List.map_cons,
    List.map_cons, List.map_cons, ← intercalate_append_cons, indented, String.toList_append]

theorem withDiagnostic_eq (header : String) (hd : d ≠ "") :
    withDiagnostic header (some d) = header ++ "\n" ++ joinLines ((lines d).map indented) := by
  rw [withDiagnostic, indentDiagnostic_eq, String.append_assoc,
    standardIndent_append_joinLines (lines_ne_nil d)]
  exact hd

/-- The diagnostic that a message shows below a header. -/
def diagnosticBelow (header message : String) : String :=
  joinLines
    ((lines (String.ofList (message.toList.drop (header.toList.length + 1)))).map unindented)

/-- The diagnostic that a message shows between a header and a full stop. -/
def diagnosticWithin (header message : String) : String :=
  joinLines (onContinuations unindented
    (lines (String.ofList (message.toList.drop header.toList.length).dropLast)))

theorem diagnosticBelow_indented (header d : String) :
    diagnosticBelow header (header ++ "\n" ++ joinLines ((lines d).map indented)) = d := by
  -- behind the header and its line break there are the indented lines
  have hrest : (header ++ "\n" ++ joinLines ((lines d).map indented)).toList.drop
      (header.toList.length + 1) = (joinLines ((lines d).map indented)).toList := by
    rw [String.toList_append, String.toList_append]
    exact List.drop_left' (by simp)
  -- and they come apart into the lines that were joined
  have hlines : lines (joinLines ((lines d).map indented)) = (lines d).map indented := by
    apply lines_joinLines
    · exact mt List.map_eq_nil_iff.mp (lines_ne_nil d)
    · intro l hl
      obtain ⟨line, hline, rfl⟩ := List.mem_map.mp hl
      exact break_not_mem_indented (break_not_mem_line hline)
  rw [diagnosticBelow, hrest, String.ofList_toList, hlines,
    unindented_leftInverse.list_map (lines d), joinLines_lines]

theorem diagnosticWithin_indented (header d : String) :
    diagnosticWithin header (header ++ joinLines (onContinuations indented (lines d)) ++ ".") =
      d := by
  -- the header is in front, and the full stop behind is dropped
  have hrest : ((header ++ joinLines (onContinuations indented (lines d)) ++ ".").toList.drop
      header.toList.length).dropLast = (joinLines (onContinuations indented (lines d))).toList := by
    rw [String.toList_append, String.toList_append, List.append_assoc, List.drop_left]
    exact List.dropLast_concat
  have hlines : lines (joinLines (onContinuations indented (lines d))) =
      onContinuations indented (lines d) := by
    apply lines_joinLines (onContinuations_ne_nil (lines_ne_nil d))
    intro l hl
    -- the first line is as it was, and those after it are indented
    obtain ⟨first, others, hsplit⟩ := List.exists_cons_of_ne_nil (lines_ne_nil d)
    have hbreak (line : String) (hline : line ∈ first :: others) : '\n' ∉ line.toList :=
      break_not_mem_line (hsplit ▸ hline)
    rw [hsplit, onContinuations] at hl
    rcases List.mem_cons.mp hl with rfl | hl
    · exact hbreak l List.mem_cons_self
    · obtain ⟨line, hline, rfl⟩ := List.mem_map.mp hl
      exact break_not_mem_indented (hbreak line (List.mem_cons_of_mem _ hline))
  rw [diagnosticWithin, hrest, String.ofList_toList, hlines,
    onContinuations_leftInverse unindented_leftInverse (lines d), joinLines_lines]

/-- Indentation goes from character to character, so it may be done in parts. -/
theorem indentDiagnostic_append (indent a b : String) :
    indentDiagnostic (some (a ++ b)) indent =
      indentDiagnostic (some a) indent ++ indentDiagnostic (some b) indent := by
  apply String.toList_inj.mp
  simp only [indentDiagnostic, Option.getD_some, indentLines, String.toList_append,
    String.toList_ofList, indentChars_append]

end Text

namespace Fault

open Text

/-- Faults that show a diagnostic below a header: the fault of each diagnostic, and the header. -/
inductive ShowsBelow : (String → Fault) → String → Prop where
  | engine (stage : EngineStage) (header : String) :
      ShowsBelow (fun d => .engine stage header (some d)) header
  | trapped (function : String) :
      ShowsBelow (fun d => .trapped function (some d))
        ("Got an error when invoking `" ++ function ++ "`.")

theorem ShowsBelow.message_eq {fault : String → Fault} {header d : String}
    (shows : ShowsBelow fault header) (hd : d ≠ "") :
    (fault d).message = header ++ "\n" ++ joinLines ((lines d).map indented) := by
  cases shows with
  | engine stage => exact withDiagnostic_eq header hd
  | trapped function => exact withDiagnostic_eq _ hd

/-- What precedes the diagnostic of a signature that cannot be resolved. -/
def unresolvedHeader (function : String) : String :=
  "Cannot invoke the function `" ++ function ++ "` because: "

theorem unresolvedSignature_message (function d : String) :
    (unresolvedSignature function (some d)).message =
      unresolvedHeader function ++ joinLines (onContinuations indented (lines d)) ++ "." := by
  rw [← indentDiagnostic_eq]
  rfl

/-- Messages show diagnostics line by line and without loss. -/
theorem diagnostics_recovered :
    (∀ {fault : String → Fault} {header : String}, ShowsBelow fault header → ∀ d, d ≠ "" →
      (fault d).message = header ++ "\n" ++ joinLines ((lines d).map indented) ∧
      diagnosticBelow header (fault d).message = d ∧
      ∀ d', d' ≠ "" → (fault d').message = (fault d).message → d' = d) ∧
    (∀ function d,
      (unresolvedSignature function (some d)).message =
        unresolvedHeader function ++ joinLines (onContinuations indented (lines d)) ++ "." ∧
      diagnosticWithin (unresolvedHeader function)
        (unresolvedSignature function (some d)).message = d ∧
      ∀ d', (unresolvedSignature function (some d')).message =
        (unresolvedSignature function (some d)).message → d' = d) ∧
    ∀ indent a b : String, indentDiagnostic (some (a ++ b)) indent =
      indentDiagnostic (some a) indent ++ indentDiagnostic (some b) indent := by
  refine ⟨?_, ?_, indentDiagnostic_append⟩
  · intro fault header shows
    have recovered (d : String) (hd : d ≠ "") : diagnosticBelow header (fault d).message = d := by
      rw [shows.message_eq hd, diagnosticBelow_indented]
    -- a message determines its diagnostic, as this can be got back from it
    intro d hd
    refine ⟨shows.message_eq hd, recovered d hd, ?_⟩
    intro d' hd' hmessage
    rw [← recovered d' hd', hmessage, recovered d hd]
  · intro function
    have recovered (d : String) : diagnosticWithin (unresolvedHeader function)
        (unresolvedSignature function (some d)).message = d := by
      rw [unresolvedSignature_message, diagnosticWithin_indented]
    intro d
    refine ⟨unresolvedSignature_message function d, recovered d, ?_⟩
    intro d' hmessage
    rw [← recovered d', hmessage, recovered d]

/-- A diagnostic with empty lines at both ends, and a line that is indented already. -/
theorem diagnostics_recovered_empty_lines :
    let d := "\n    at 0x2a\n\n"
    let message := "Compilation failed.\n    \n        at 0x2a\n    \n    "
    ShowsBelow (fun d => .engine .compile "Compilation failed." (some d)) "Compilation failed." ∧
      d ≠ "" ∧ (Fault.engine .compile "Compilation failed." (some d)).message = message ∧
      diagnosticBelow "Compilation failed." message = d := by
  intro d message
  have shows := ShowsBelow.engine .compile "Compilation failed."
  have nonempty : d ≠ "" := by decide
  obtain ⟨hmessage, hback, -⟩ := diagnostics_recovered.1 shows d nonempty
  have heq : (Fault.engine .compile "Compilation failed." (some d)).message = message := by
    rw [hmessage]
    decide
  exact ⟨shows, nonempty, heq, heq ▸ hback⟩

end Fault
end WasmHost
