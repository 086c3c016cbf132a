import Mathlib.Data.List.DropRight
import TypedConfig.CaseFile.Layout

/-!
Case files are read as they are laid out. Each part of a block takes every line up to its own
ending, whatever the line looks like, and the line with the next name is looked for only behind the
last part; so the blocks that are read are those that were written, at their lines.
-/
namespace TypedConfig

/-! ## Lines -/

namespace Text

theorem splitOn_flatMap {separator : Char} {pieces : List (List Char)}
    (free : ∀ piece ∈ pieces, separator ∉ piece) :
    (pieces.flatMap (· ++ [separator])).splitOn separator = pieces ++ [[]] := by
  induction pieces with
  | nil => rfl
  | cons piece pieces ih =>
    obtain ⟨here, later⟩ := List.forall_mem_cons.mp free
    rw [List.flatMap_cons, List.append_assoc, List.singleton_append,
      List.splitOn_append_cons_self_of_not_mem here, ih later, List.cons_append]

theorem endedLines_cons (line : List Char) {rest : List (List Char)} (more : rest ≠ []) :
    endedLines (line :: rest) = dropReturn line :: endedLines rest := by
  cases rest with
  | nil => exact absurd rfl more
  | cons next rest => rfl

theorem endedLines_append (ended : List (List Char)) :
    endedLines (ended ++ [[]]) = ended.map dropReturn := by
  induction ended with
  | nil => rfl
  | cons line ended ih =>
    have more : ended ++ [[]] ≠ [] := by simp
    rw [List.cons_append, endedLines_cons line more, ih, List.map_cons]

/-- Lines that are each ended by a line feed are the lines of the whole text. -/
theorem lines_unlines {ls : List String} (each : ∀ line ∈ ls, IsLine line) :
    lines (String.join (ls.map fun line => line ++ "\n")) = ls := by
  have chars : (String.join (ls.map fun line => line ++ "\n")).toList =
      (ls.map String.toList).flatMap (· ++ ['\n']) := by
    simp [String.toList_join, List.flatMap_map]
  have free : ∀ piece ∈ ls.map String.toList, '\n' ∉ piece := by
    simpa using fun line member => (each line member).1
  have kept : ∀ line ∈ ls, String.ofList (dropReturn line.toList) = line := by
    intro line member
    rw [dropReturn, if_neg (each line member).2, String.ofList_toList]
  rw [lines, chars, splitOn_flatMap free, endedLines_append, List.map_map, List.map_map]
  exact (List.map_congr_left kept).trans (List.map_id ls)

theorem IsLine.append {a b : String} (h : IsLine a) (h' : IsLine b) : IsLine (a ++ b) := by
  constructor
  · simp [h.1, h'.1]
  · rw [String.toList_append, List.getLast?_append]
    cases last : b.toList.getLast? with
    | none => simpa using h.2
    | some c =>
      have other := h'.2
      rw [last] at other
      simpa using other

/-! ## Blanks at the ends -/

/-- Blanks at the end go as far as there is nothing else behind them. -/
theorem dropBlankEnd_cons (c : Char) (cs : List Char) :
    dropBlankEnd (c :: cs) =
      if isBlank c = true ∧ dropBlankEnd cs = [] then [] else c :: dropBlankEnd cs := by
  simp only [dropBlankEnd, List.reverse_cons, List.dropWhile_append, List.reverse_eq_nil_iff,
    List.isEmpty_iff]
  by_cases nothing : cs.reverse.dropWhile isBlank = []
  · cases blank : isBlank c <;> simp [nothing, blank]
  · simp [nothing]

theorem dropBlankEnd_visible {c : Char} (visible : isBlank c = false) (cs : List Char) :
    dropBlankEnd (c :: cs) = c :: dropBlankEnd cs := by
  simp [dropBlankEnd_cons, visible]

theorem dropBlankEnd_append (front : List Char) {c : Char} (visible : isBlank c = false)
    (cs : List Char) : dropBlankEnd (front ++ c :: cs) = front ++ c :: dropBlankEnd cs := by
  induction front with
  | nil => exact dropBlankEnd_visible visible cs
  | cons d front ih => simp [dropBlankEnd_cons, ih]

theorem dropBlankEnd_idem (cs : List Char) : dropBlankEnd (dropBlankEnd cs) = dropBlankEnd cs :=
  List.rdropWhile_idempotent isBlank cs

theorem dropBlanks_blank {c : Char} (blank : isBlank c = true) (cs : List Char) :
    dropBlanks (c :: cs) = dropBlanks cs := by
  rw [dropBlanks, List.dropWhile_cons_of_pos blank, dropBlanks]

theorem dropBlanks_visible {c : Char} (visible : isBlank c = false) (cs : List Char) :
    dropBlanks (c :: cs) = c :: dropBlankEnd cs := by
  rw [dropBlanks, List.dropWhile_cons_of_neg (by simp [visible]), dropBlankEnd_visible visible]

/-- It does not matter when the blanks at the end are dropped. -/
theorem dropBlanks_dropBlankEnd (cs : List Char) :
    dropBlanks (dropBlankEnd cs) = dropBlanks cs := by
  induction cs with
  | nil => rfl
  | cons c cs ih =>
    cases blank : isBlank c with
    | false =>
      rw [dropBlankEnd_visible blank, dropBlanks_visible blank, dropBlanks_visible blank,
        dropBlankEnd_idem]
    | true =>
      rw [dropBlanks_blank blank, ← ih, dropBlankEnd_cons]
      split
      · rename_i nothing
        rw [nothing.2]
      · rw [dropBlanks_blank blank]

/-- What is left does not end in a blank. -/
theorem getLast?_dropBlankEnd {cs : List Char} {c : Char}
    (last : (dropBlankEnd cs).getLast? = some c) : isBlank c = false := by
  rw [dropBlankEnd, List.getLast?_reverse] at last
  have stop := List.head?_dropWhile_not isBlank cs.reverse
  rw [last] at stop
  simpa using stop

end Text

namespace CaseFile

open Text (IsLine isBlank dropBlanks dropBlankEnd)

theorem IsTrimmed.isLine {text : String} (h : IsTrimmed text) : IsLine text := by
  refine ⟨h.2, fun last => ?_⟩
  have left : dropBlanks text.toList = text.toList := by
    rw [← String.toList_ofList (l := dropBlanks text.toList)]
    exact congrArg String.toList h.1
  rw [← left] at last
  have visible := Text.getLast?_dropBlankEnd last
  revert visible
  decide

/-- A blank before a text and blanks that were behind it do not count. -/
theorem IsTrimmed.ofList_spaced {text : String} (h : IsTrimmed text) :
    Text.trim (String.ofList (dropBlankEnd (' ' :: text.toList))) = text := by
  rw [Text.trim, String.toList_ofList, Text.dropBlanks_dropBlankEnd,
    Text.dropBlanks_blank (by decide)]
  exact h.1

/-! ## Names and headers -/

theorem IsOther.nameIn? {line : String} (h : IsOther line) : nameIn? line = none := by
  rw [CaseFile.nameIn?, Option.map_eq_none_iff, Option.eq_none_iff_forall_ne_some]
  intro rest found
  exact h.2 ⟨rest, List.isPrefixOf?_eq_some_iff_append_eq.mp found⟩

theorem nameIn?_opening {name : String} (h : IsTrimmed name) :
    nameIn? (opening ++ " " ++ name) = some name := by
  have chars : (opening ++ " " ++ name).toList =
      '#' :: (" test".toList ++ ':' :: ' ' :: name.toList) := by
    simp [opening]
  have trimmed : (Text.trim (opening ++ " " ++ name)).toList =
      opening.toList ++ dropBlankEnd (' ' :: name.toList) := by
    rw [Text.trim, String.toList_ofList, chars, Text.dropBlanks_visible (by decide),
      Text.dropBlankEnd_append _ (by decide)]
    rfl
  rw [nameIn?, List.isPrefixOf?_eq_some_iff_append_eq.mpr trimmed.symm, Option.map_some,
    h.ofList_spaced]

theorem splitFirst_append {p : Char → Bool} {front : List Char} (before : ∀ c ∈ front, p c = false)
    {c : Char} (here : p c = true) (rest : List Char) :
    Text.splitFirst p (front ++ c :: rest) = some (front, rest) := by
  induction front with
  | nil => simp [Text.splitFirst, here]
  | cons d front ih =>
    obtain ⟨other, later⟩ := List.forall_mem_cons.mp before
    simp [Text.splitFirst, other, ih later]

section
variable {header : String × String}

theorem trim_headerLine (header : String × String) :
    (Text.trim (Entry.headerLine header)).toList =
      '#' :: (' ' :: header.1.toList ++ ':' :: dropBlankEnd (' ' :: header.2.toList)) := by
  have chars : (Entry.headerLine header).toList =
      '#' :: ((' ' :: header.1.toList) ++ ':' :: ' ' :: header.2.toList) := by
    simp [Entry.headerLine]
  rw [Text.trim, String.toList_ofList, chars, Text.dropBlanks_visible (by decide),
    Text.dropBlankEnd_append _ (by decide)]

theorem IsHeader.headerIn? (h : IsHeader header) :
    headerIn? (Entry.headerLine header) = some header := by
  have front : ['#'].isPrefixOf? (Text.trim (Entry.headerLine header)).toList =
      some (' ' :: header.1.toList ++ ':' :: dropBlankEnd (' ' :: header.2.toList)) :=
    List.isPrefixOf?_eq_some_iff_append_eq.mpr (trim_headerLine header).symm
  have before : ∀ c ∈ ' ' :: header.1.toList, decide (c = ':') = false := by
    intro c member
    rcases List.mem_cons.mp member with rfl | inside
    · decide
    · exact decide_eq_false fun same => h.undivided (same ▸ inside)
  have name : Text.trim (String.ofList (' ' :: header.1.toList)) = header.1 := by
    rw [Text.trim, String.toList_ofList, Text.dropBlanks_blank (by decide)]
    exact h.name.1
  simp only [CaseFile.headerIn?, front, Option.bind_eq_bind, Option.bind_some,
    splitFirst_append before (decide_eq_true rfl), name, h.value.ofList_spaced]
  rfl

/-- A header's line does not end the headers. -/
theorem IsHeader.holds (h : IsHeader header) : Part.headers.Holds (Entry.headerLine header) := by
  constructor
  · have hash : IsLine "# " := by decide
    have colon : IsLine ": " := by decide
    exact ((hash.append h.name.isLine).append colon).append h.value.isLine
  · intro ending
    have chars := congrArg String.toList ending
    rw [trim_headerLine] at chars
    cases chars

end

/-- Headers are found again on their lines. -/
theorem filterMap_headerLine {headers : List (String × String)}
    (each : ∀ header ∈ headers, IsHeader header) :
    (headers.map Entry.headerLine).filterMap headerIn? = headers := by
  induction headers with
  | nil => rfl
  | cons header headers ih =>
    obtain ⟨here, later⟩ := List.forall_mem_cons.mp each
    rw [List.map_cons, List.filterMap_cons_some here.headerIn?, ih later]

/-! ## Parts -/

namespace Draft

/-- Lines are read in a part, one after the other. -/
def addAll (draft : Draft) (part : Part) (lines : List String) : Draft :=
  lines.foldl (fun draft line => draft.add line part) draft

/-- Reading keeps the lines of a part, the latest first; of the headers it keeps what they give. -/
theorem addAll_eq (draft : Draft) (part : Part) (lines : List String) :
    draft.addAll part lines =
      match part with
      | .headers => { draft with headers := (lines.filterMap headerIn?).reverse ++ draft.headers }
      | .input => { draft with input := lines.reverse ++ draft.input }
      | .expected => { draft with expected := lines.reverse ++ draft.expected } := by
  induction lines generalizing draft with
  | nil => cases part <;> rfl
  | cons line lines ih =>
    have step : draft.addAll part (line :: lines) = (draft.add line part).addAll part lines := rfl
    rw [step, ih]
    cases part with
    | headers => cases found : headerIn? line <;> simp [add, found]
    | input => simp [add]
    | expected => simp [add]

end Draft

theorem trim_ending (part : Part) : Text.trim part.ending = part.ending := by
  cases part <;> decide +kernel

/-- A part takes all its lines, up to the one that ends it. -/
theorem readBlocks_part (draft : Draft) (part : Part) (number : Nat) {lines : List String}
    (each : ∀ line ∈ lines, part.Holds line) (rest : List String) :
    readBlocks (some (draft, part)) number (lines ++ part.ending :: rest) =
      match part.next? with
      | some next =>
        readBlocks (some (draft.addAll part lines, next)) (number + lines.length + 1) rest
      | none =>
        (draft.addAll part lines).finish :: readBlocks none (number + lines.length + 1) rest := by
  induction lines generalizing draft number with
  | nil =>
    rw [List.nil_append, readBlocks, if_pos (trim_ending part)]
    rfl
  | cons line lines ih =>
    obtain ⟨here, later⟩ := List.forall_mem_cons.mp each
    have place : number + 1 + lines.length = number + (lines.length + 1) := by omega
    rw [List.cons_append, readBlocks, if_neg here.2, ih (draft.add line part) (number + 1) later,
      List.length_cons, place]
    rfl

/-! ## Blocks -/

theorem readBlocks_others {others : List String} (each : ∀ line ∈ others, IsOther line)
    (number : Nat) (rest : List String) :
    readBlocks none number (others ++ rest) = readBlocks none (number + others.length) rest := by
  induction others generalizing number with
  | nil => rfl
  | cons line others ih =>
    obtain ⟨here, later⟩ := List.forall_mem_cons.mp each
    have place : number + 1 + others.length = number + (others.length + 1) := by omega
    simp only [List.cons_append, readBlocks, here.nameIn?, ih later, List.length_cons, place]

/-- The lines of an entry are read as its block. -/
theorem Entry.Sound.readBlocks {entry : Entry} (h : entry.Sound) (number : Nat)
    (rest : List String) :
    CaseFile.readBlocks none number (entry.lines ++ rest) =
      entry.toBlock number :: CaseFile.readBlocks none (number + entry.lines.length) rest := by
  have headers : ∀ line ∈ entry.headers.map Entry.headerLine, Part.headers.Holds line := by
    intro line member
    obtain ⟨header, among, rfl⟩ := List.mem_map.mp member
    exact (h.headers header among).holds
  have laid : entry.lines ++ rest = (opening ++ " " ++ entry.name) ::
      (entry.headers.map Entry.headerLine ++ Part.headers.ending ::
        (entry.input ++ Part.input.ending ::
          (entry.expected ++ Part.expected.ending :: rest))) := by
    simp [Entry.lines, Part.ending]
  have length : entry.lines.length =
      entry.headers.length + entry.input.length + entry.expected.length + 4 := by
    simp only [Entry.lines, List.length_append, List.length_cons, List.length_map, List.length_nil]
    omega
  have place : number + 1 + entry.headers.length + 1 + entry.input.length + 1 +
      entry.expected.length + 1 = number + entry.lines.length := by omega
  rw [laid, CaseFile.readBlocks, nameIn?_opening h.name]
  simp only [readBlocks_part _ _ _ headers, readBlocks_part _ _ _ h.input,
    readBlocks_part _ _ _ h.expected, Part.next?, List.length_map, place, Draft.addAll_eq,
    filterMap_headerLine h.headers]
  simp [Draft.finish, Entry.toBlock]

namespace Layout

theorem readBlocks_entryLines {entries : List (List String × Entry)}
    (each : ∀ entry ∈ entries, (∀ line ∈ entry.1, IsOther line) ∧ entry.2.Sound) (before : Nat)
    (rest : List String) :
    readBlocks none (before + 1) (entryLines entries ++ rest) =
      blocksFrom before entries ++
        readBlocks none (before + (entryLines entries).length + 1) rest := by
  induction entries generalizing before with
  | nil => rfl
  | cons entry entries ih =>
    obtain ⟨others, entry⟩ := entry
    obtain ⟨⟨other, sound⟩, later⟩ := List.forall_mem_cons.mp each
    have first : before + 1 + others.length = before + others.length + 1 := by omega
    have next : before + others.length + 1 + entry.lines.length =
        before + others.length + entry.lines.length + 1 := by omega
    rw [entryLines, List.append_assoc, List.append_assoc, readBlocks_others other, first,
      sound.readBlocks, next, ih later]
    simp only [blocksFrom, List.cons_append, List.length_append, Nat.add_assoc]

end Layout

/-! ## Files -/

theorem Entry.Sound.isLine {entry : Entry} (h : entry.Sound) :
    ∀ line ∈ entry.lines, IsLine line := by
  have first : IsLine (opening ++ " " ++ entry.name) := by
    have front : IsLine (opening ++ " ") := by decide
    exact front.append h.name.isLine
  have headers : ∀ line ∈ entry.headers.map Entry.headerLine, IsLine line := by
    intro line member
    obtain ⟨header, among, rfl⟩ := List.mem_map.mp member
    exact (h.headers header among).holds.1
  have dashes : IsLine "---" := by decide
  have equals : IsLine "===" := by decide
  intro line member
  simp only [Entry.lines, List.mem_append, List.mem_cons, List.not_mem_nil, or_false] at member
  rcases member with (((rfl | among) | rfl | among) | rfl | among) | rfl
  · exact first
  · exact headers line among
  · exact dashes
  · exact (h.input line among).1
  · exact dashes
  · exact (h.expected line among).1
  · exact equals

theorem Layout.isLine_entryLines {entries : List (List String × Entry)}
    (each : ∀ entry ∈ entries, (∀ line ∈ entry.1, IsOther line) ∧ entry.2.Sound) :
    ∀ line ∈ entryLines entries, IsLine line := by
  induction entries with
  | nil => exact List.forall_mem_nil _
  | cons entry entries ih =>
    obtain ⟨⟨other, sound⟩, later⟩ := List.forall_mem_cons.mp each
    intro line member
    simp only [entryLines, List.mem_append] at member
    rcases member with (among | among) | among
    · exact (other line among).1
    · exact sound.isLine line among
    · exact ih later line among

theorem Layout.Sound.isLine {layout : Layout} (h : layout.Sound) :
    ∀ line ∈ layout.lines, IsLine line := by
  intro line member
  rcases List.mem_append.mp member with among | among
  · exact Layout.isLine_entryLines h.entries line among
  · exact (h.ending line among).1

/-- **Case files are read as they are laid out.** The blocks of a file are its entries in order,
each at the line with its name, with its headers, its input as it stands and its expected text
without the blanks at its ends. Lines that would end another part, or begin a block, may stand in
any part that they do not end. -/
theorem laid_out_blocks_are_read (layout : Layout) (sound : layout.Sound) :
    blocks layout.content = layout.blocks := by
  have entries := Layout.readBlocks_entryLines sound.entries 0 layout.ending
  have others := readBlocks_others sound.ending
    (0 + (Layout.entryLines layout.entries).length + 1) []
  rw [List.append_nil, readBlocks] at others
  rw [others, List.append_nil] at entries
  rw [blocks, Layout.content, Text.lines_unlines sound.isLine]
  exact entries

/-- Endings and names stand in parts that they do not end, and between the blocks; the second
block has nothing in it, not even a name. -/
theorem crowded_blocks_are_read :
    let layout : Layout :=
      { entries :=
          [(["", "===", "# tests: 2"],
              { name := "first"
                headers := [("type", "int[]"), ("test", "a: b"), ("", "")]
                input := ["# test: inside", " ===", "1,2", ""]
                expected := ["", "  ---", "# test: inside "] }),
            ([], { name := "", headers := [], input := [], expected := [] })]
        ending := ["---", "# testing"] }
    layout.Sound ∧ blocks layout.content =
      [{ name := "first"
         line := 4
         headers := [("type", "int[]"), ("test", "a: b"), ("", "")]
         input := "# test: inside\n ===\n1,2\n"
         expected := "---\n# test: inside" },
        { name := "", line := 18, headers := [], input := "", expected := "" }] := by
  intro layout
  have sound : layout.Sound := by decide +kernel
  exact ⟨sound, (laid_out_blocks_are_read layout sound).trans (by decide +kernel)⟩

end CaseFile

end TypedConfig
