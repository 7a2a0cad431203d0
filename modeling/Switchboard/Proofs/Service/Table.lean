import Mathlib.Algebra.Ring.Nat
import Mathlib.Data.List.Forall2
import Mathlib.Order.Bounds.Defs
import Switchboard.Proofs.Json.Plain
import Switchboard.Service.Status
/-!
The status table as it is looked at: its columns and its lines. The width of the name column is
measured in octets and filled up in characters, so that it is enough for every name; and a line is
broken only where the status that it shows is.
-/

set_option autoImplicit false
set_option relaxedAutoImplicit false

namespace Switchboard

namespace Text

theorem octetCount_eq (chars : List Char) :
    octetCount chars = (String.ofList chars).utf8ByteSize := by
  induction chars with
  | nil => rfl
  | cons c rest ih =>
    have whole : String.ofList (c :: rest) = String.singleton c ++ String.ofList rest := by
      rw [String.singleton_eq_ofList, ← String.ofList_append, List.singleton_append]
    rw [whole, String.utf8ByteSize_append, String.utf8ByteSize_singleton, octetCount, ih]

theorem octetCount_toList (text : String) : octetCount text.toList = text.utf8ByteSize := by
  rw [octetCount_eq, String.ofList_toList]

theorem length_le_octetCount (chars : List Char) : chars.length ≤ octetCount chars := by
  induction chars with
  | nil => exact Nat.le_refl 0
  | cons c rest ih =>
    have positive := c.utf8Size_pos
    rw [List.length_cons, octetCount]
    omega

end Text

/-- A line of the table in which the name, followed by two spaces or more, fills the columns in
front of the status. -/
structure IsAligned (width : Nat) (entry : String × String) (line : String) : Prop where
  spaced : ∃ gap, 2 ≤ gap ∧ entry.1.length + gap = width + 2 ∧
    line = entry.1 ++ String.ofList (List.replicate gap ' ') ++ entry.2 ++ "\n"
  column : line.toList.drop (width + 2) = entry.2.toList ++ ['\n']

def tableEntries (reports : List ServiceReport) : List (String × String) :=
  (nameHeading, statusHeading) :: reports.map fun report => (report.name, report.status.text)

section Columns

theorem statusTable_eq (reports : List ServiceReport) :
    statusTable reports = String.join ((tableEntries reports).map fun entry =>
      tableLine (columnWidth reports) entry.1 entry.2) := by
  simp only [statusTable, tableEntries, List.map_cons, List.map_map]
  rfl

theorem columnWidth_isGreatest (reports : List ServiceReport) :
    IsGreatest {size | ∃ entry ∈ tableEntries reports, entry.1.utf8ByteSize = size}
      (columnWidth reports) := by
  have sizes : (tableEntries reports).map (fun entry => entry.1.utf8ByteSize) =
      Text.octetCount nameHeading.toList ::
        reports.map fun report => Text.octetCount report.name.toList := by
    simp [tableEntries, Text.octetCount_toList]
  have greatest : ((tableEntries reports).map fun entry => entry.1.utf8ByteSize).max? =
      some (columnWidth reports) := by
    rw [sizes, List.max?_cons']
    rfl
  obtain ⟨member, bound⟩ := List.max?_eq_some_iff.mp greatest
  refine ⟨List.mem_map.mp member, ?_⟩
  rintro size ⟨entry, listed, rfl⟩
  exact bound _ (List.mem_map_of_mem listed)

theorem tableLine_isAligned {width : Nat} {name : String} (status : String)
    (fits : name.utf8ByteSize ≤ width) :
    IsAligned width (name, status) (tableLine width name status) := by
  have chars : name.toList.length ≤ width := by
    have fewer := Text.length_le_octetCount name.toList
    rw [Text.octetCount_toList] at fewer
    omega
  have filled : tableLine width name status = name ++
      String.ofList (List.replicate (width - name.toList.length + 2) ' ') ++ status ++ "\n" := by
    apply String.toList_inj.mp
    simp [tableLine, padRight, List.replicate_succ']
  refine ⟨⟨width - name.toList.length + 2, by omega, ?_, filled⟩, ?_⟩
  · change name.length + _ = _
    rw [← String.length_toList]
    omega
  · have column : (name.toList ++ List.replicate (width - name.toList.length + 2) ' ').length =
        width + 2 := by
      rw [List.length_append, List.length_replicate]
      omega
    rw [filled]
    simp only [String.toList_append, String.toList_ofList]
    rw [List.append_assoc, List.drop_left' column]
    rfl

/-- The table is one aligned line for the headings and one for each report, all of them with the
width of the name that takes the most octets. -/
theorem table_aligned (reports : List ServiceReport) : ∃ width lines,
    IsGreatest {size | ∃ entry ∈ tableEntries reports, entry.1.utf8ByteSize = size} width ∧
      statusTable reports = String.join lines ∧
      List.Forall₂ (IsAligned width) (tableEntries reports) lines := by
  have greatest := columnWidth_isGreatest reports
  refine ⟨columnWidth reports, _, greatest, statusTable_eq reports, ?_⟩
  rw [List.forall₂_map_right_iff, List.forall₂_same]
  intro entry listed
  exact tableLine_isAligned entry.2 (greatest.2 ⟨entry, listed, rfl⟩)

end Columns

/-- How many line breaks of a reply the table shows: those of a string, which is trimmed where it
was delivered normally. No other value is written with any. -/
def Reply.breaks (reply : Reply) : Nat :=
  match reply.value with
  | .string text => (if reply.isPayload then Text.trim text else text).toList.count '\n'
  | _ => 0

def reportsOf (rows : List (String × Reply)) : List ServiceReport :=
  rows.map fun row => ⟨row.1, .ofReply row.2⟩

def lineChars (width : Nat) (entry : String × String) : List Char :=
  (padRight width entry.1 ++ "  " ++ entry.2).toList

section Lines

theorem newline_not_mem_write (value : Json) : '\n' ∉ value.write.toList := by
  intro member
  rw [Json.write, String.toList_ofList] at member
  exact absurd (Json.isPlain_chars value _ member) (by decide)

theorem trim_subset (text : String) : (Text.trim text).toList ⊆ text.toList := by
  intro c member
  rw [Text.trim, String.toList_ofList, Text.trimChars, List.mem_reverse] at member
  have inner := (List.dropWhile_sublist _).subset member
  exact (List.dropWhile_sublist _).subset (List.mem_reverse.mp inner)

theorem text_ofReply (reply : Reply) : (ServiceStatus.ofReply reply).text =
    if reply.isPayload then Text.trim reply.valueText else "error: " ++ reply.valueText := by
  unfold ServiceStatus.ofReply
  split_ifs with delivered
  · simp only
    split_ifs with active inactive missing
    · exact active.symm
    · exact inactive.symm
    · exact missing.symm
    · rfl
  · rfl

theorem newline_not_mem_valueText {reply : Reply} (other : ∀ text, reply.value ≠ .string text) :
    '\n' ∉ reply.valueText.toList := by
  unfold Reply.valueText
  split
  · rename_i text same
    exact absurd same (other text)
  · decide
  · exact newline_not_mem_write _

theorem count_status (reply : Reply) :
    (ServiceStatus.ofReply reply).text.toList.count '\n' = reply.breaks := by
  have label : "error: ".toList.count '\n' = 0 := by decide
  rw [text_ofReply]
  by_cases isString : ∃ text, reply.value = .string text
  · obtain ⟨text, same⟩ := isString
    have shown : reply.valueText = text := by rw [Reply.valueText, same]
    rw [shown, Reply.breaks, same]
    split
    · rfl
    · rw [String.toList_append, List.count_append, label, Nat.zero_add]
  · have other : ∀ text, reply.value ≠ .string text := fun text same => isString ⟨text, same⟩
    have unbroken := newline_not_mem_valueText other
    have nothing : reply.breaks = 0 := by
      unfold Reply.breaks
      split
      · rename_i text same
        exact absurd same (other text)
      · rfl
    rw [nothing]
    split
    · exact List.count_eq_zero.mpr fun member => unbroken (trim_subset _ member)
    · rw [String.toList_append, List.count_append, label, List.count_eq_zero.mpr unbroken]

theorem toList_tableLine (width : Nat) (entry : String × String) :
    (tableLine width entry.1 entry.2).toList = lineChars width entry ++ ['\n'] := by
  rw [tableLine, String.toList_append, lineChars]
  rfl

theorem toList_statusTable (reports : List ServiceReport) : (statusTable reports).toList =
    (tableEntries reports).flatMap fun entry =>
      lineChars (columnWidth reports) entry ++ ['\n'] := by
  rw [statusTable_eq, String.toList_join, List.flatMap_map]
  simp only [toList_tableLine]

theorem count_lineChars (width : Nat) (entry : String × String) :
    (lineChars width entry).count '\n' = entry.1.toList.count '\n' + entry.2.toList.count '\n' := by
  have spaces : "  ".toList.count '\n' = 0 := by decide
  have padding : ∀ n, (List.replicate n ' ').count '\n' = 0 := by
    intro n
    rw [List.count_replicate, if_neg (by decide)]
  simp only [lineChars, padRight, String.toList_append, String.toList_ofList, List.count_append,
    spaces, padding, Nat.add_zero]

theorem count_lines (width : Nat) (entries : List (String × String)) :
    (entries.flatMap fun entry => lineChars width entry ++ ['\n']).count '\n' =
      entries.length + (entries.map fun entry =>
        entry.1.toList.count '\n' + entry.2.toList.count '\n').sum := by
  induction entries with
  | nil => rfl
  | cons entry rest ih =>
    rw [List.flatMap_cons, List.count_append, List.count_append, List.count_singleton_self,
      count_lineChars, ih, List.length_cons, List.map_cons, List.sum_cons]
    omega

theorem count_statusTable (reports : List ServiceReport) : (statusTable reports).toList.count '\n' =
    reports.length + 1 + (reports.map fun report =>
      report.name.toList.count '\n' + report.status.text.toList.count '\n').sum := by
  have headings : nameHeading.toList.count '\n' + statusHeading.toList.count '\n' = 0 := by decide
  rw [toList_statusTable, count_lines, tableEntries, List.length_cons, List.length_map,
    List.map_cons, List.sum_cons, headings, Nat.zero_add, List.map_map]
  rfl

theorem flatMap_ends (lines : List (List Char)) :
    (lines.flatMap fun line => line ++ ['\n']) = ['\n'].intercalate (lines ++ [[]]) := by
  induction lines with
  | nil => rfl
  | cons line rest ih =>
    rw [List.flatMap_cons, ih]
    cases rest with
    | nil => simp
    | cons next rest => simp

theorem sum_breaks {rows : List (String × Reply)} (named : ∀ row ∈ rows, '\n' ∉ row.1.toList) :
    ((reportsOf rows).map fun report =>
      report.name.toList.count '\n' + report.status.text.toList.count '\n').sum =
    (rows.map fun row => row.2.breaks).sum := by
  rw [reportsOf, List.map_map]
  congr 1
  apply List.map_congr_left
  intro row listed
  simp only [Function.comp_apply, count_status, List.count_eq_zero.mpr (named row listed),
    Nat.zero_add]

/-- A line of the table is one line where neither the name nor the reply breaks it. -/
theorem newline_not_mem_lineChars {rows : List (String × Reply)}
    (named : ∀ row ∈ rows, '\n' ∉ row.1.toList) (unbroken : ∀ row ∈ rows, row.2.breaks = 0)
    (width : Nat) {entry : String × String} (listed : entry ∈ tableEntries (reportsOf rows)) :
    '\n' ∉ lineChars width entry := by
  rw [← List.count_eq_zero, count_lineChars]
  rcases List.mem_cons.mp listed with heading | report
  · subst heading
    decide
  · rw [reportsOf, List.map_map, List.mem_map] at report
    obtain ⟨row, member, rfl⟩ := report
    simp only [Function.comp_apply, count_status, unbroken row member,
      List.count_eq_zero.mpr (named row member)]

theorem splitOn_statusTable {reports : List ServiceReport}
    (single : ∀ entry ∈ tableEntries reports, '\n' ∉ lineChars (columnWidth reports) entry) :
    (statusTable reports).toList.splitOn '\n' =
      (tableEntries reports).map (lineChars (columnWidth reports)) ++ [[]] := by
  have ended : (statusTable reports).toList = ['\n'].intercalate
      ((tableEntries reports).map (lineChars (columnWidth reports)) ++ [[]]) := by
    rw [toList_statusTable, ← flatMap_ends, List.flatMap_map]
  rw [ended]
  apply List.splitOn_intercalate
  · intro line listed
    rcases List.mem_append.mp listed with inner | last
    · obtain ⟨entry, member, rfl⟩ := List.mem_map.mp inner
      exact single entry member
    · rw [List.mem_singleton.mp last]
      exact List.not_mem_nil
  · exact List.append_ne_nil_of_right_ne_nil _ (List.cons_ne_nil _ _)

/-- Where no name breaks a line, the table has a line for the headings, one for each report, and one
more for each line break in a string that is shown. Without these its lines are the reports. -/
theorem line_per_report {rows : List (String × Reply)} (named : ∀ row ∈ rows, '\n' ∉ row.1.toList) :
    (statusTable (reportsOf rows)).toList.count '\n' =
      rows.length + 1 + (rows.map fun row => row.2.breaks).sum ∧
    ((∀ row ∈ rows, row.2.breaks = 0) →
      (statusTable (reportsOf rows)).toList.count '\n' = rows.length + 1 ∧
      (statusTable (reportsOf rows)).toList.splitOn '\n' =
        (tableEntries (reportsOf rows)).map (lineChars (columnWidth (reportsOf rows))) ++ [[]]) := by
  have total : (statusTable (reportsOf rows)).toList.count '\n' =
      rows.length + 1 + (rows.map fun row => row.2.breaks).sum := by
    rw [count_statusTable, sum_breaks named, reportsOf, List.length_map]
  refine ⟨total, fun unbroken => ⟨?_, ?_⟩⟩
  · have nothing : (rows.map fun row => row.2.breaks).sum = 0 := by
      apply List.sum_eq_zero_iff_forall_eq_nat.mpr
      intro breaks listed
      obtain ⟨row, member, rfl⟩ := List.mem_map.mp listed
      exact unbroken row member
    omega
  · apply splitOn_statusTable
    intro entry listed
    exact newline_not_mem_lineChars named unbroken _ listed

/-- Line breaks around the text of a normal delivery are trimmed, and those in the strings of an
array are escaped. -/
theorem line_per_report_trimmed :
    let rows : List (String × Reply) := [("nginx", ⟨payloadCode, .string "active\n"⟩),
      ("mysql", ⟨errorCode, .array [.string "\n"]⟩)]
    (∀ row ∈ rows, '\n' ∉ row.1.toList) ∧ (∀ row ∈ rows, row.2.breaks = 0) ∧
      (statusTable (reportsOf rows)).toList.count '\n' = 3 ∧
      ((statusTable (reportsOf rows)).toList.splitOn '\n').map String.ofList =
        ["SERVICE  STATUS", "nginx    active", "mysql    error: [\"\\n\"]", ""] := by
  intro rows
  have named : ∀ row ∈ rows, '\n' ∉ row.1.toList := by decide
  have unbroken : ∀ row ∈ rows, row.2.breaks = 0 := by decide +kernel
  obtain ⟨total, lines⟩ := (line_per_report named).2 unbroken
  refine ⟨named, unbroken, total, ?_⟩
  rw [lines]
  decide +kernel

/-- A line break within the text of a delivery makes two lines of its report. -/
theorem multiline_reply_breaks_row :
    ¬ ∀ rows : List (String × Reply), (∀ row ∈ rows, '\n' ∉ row.1.toList) →
      (statusTable (reportsOf rows)).toList.count '\n' = rows.length + 1 := by
  intro claimed
  have two := claimed [("nginx", ⟨payloadCode, .string "up\ndown"⟩)] (by decide)
  exact absurd two (by decide +kernel)

end Lines

end Switchboard
