import Mathlib.Algebra.GroupWithZero.Nat
import TypedConfig.CaseFile.Case
import TypedConfig.Proofs.Rendering

/-!
Comparing trees by their texts. Behind each name of a tree stand the brackets that close there, and
how many these are says where the name belongs. Only a name that ends in such a bracket itself can
hide their number: then two trees may have one text. Blanks are not to blame, for between the words
of a tree there is always one.
-/
namespace TypedConfig

/-! ## Words -/

namespace Text

/-- The words of some characters. -/
def wordsOf (cs : List Char) : List (List Char) := consWord (cutWords cs).1 (cutWords cs).2

theorem cutWords_append {c : Char} (blank : isBlank c = true) (before after : List Char) :
    cutWords (before ++ c :: after) =
      ((cutWords before).1, (cutWords before).2 ++ wordsOf after) := by
  induction before with
  | nil => simp [cutWords, blank, wordsOf]
  | cons d before ih =>
    simp only [List.cons_append, cutWords, ih]
    by_cases other : isBlank d = true
    · by_cases empty : (cutWords before).1 = [] <;> simp [other, consWord, empty]
    · simp [other]

/-- A blank ends a word and belongs to none. -/
theorem wordsOf_append {c : Char} (blank : isBlank c = true) (before after : List Char) :
    wordsOf (before ++ c :: after) = wordsOf before ++ wordsOf after := by
  rw [wordsOf, cutWords_append blank]
  by_cases empty : (cutWords before).1 = [] <;> simp [wordsOf, consWord, empty]

/-- A run of characters that is one word. -/
def IsWord (word : List Char) : Prop := word ≠ [] ∧ ∀ c ∈ word, isBlank c = false

theorem cutWords_of_visible {word : List Char} (visible : ∀ c ∈ word, isBlank c = false) :
    cutWords word = (word, []) := by
  induction word with
  | nil => rfl
  | cons c word ih =>
    obtain ⟨here, later⟩ := List.forall_mem_cons.mp visible
    simp [cutWords, here, ih later]

theorem IsWord.wordsOf {word : List Char} (h : IsWord word) : Text.wordsOf word = [word] := by
  simp [Text.wordsOf, cutWords_of_visible h.2, consWord, h.1]

/-- Words with one space between them are found again. -/
theorem wordsOf_intercalate {words : List (List Char)} (each : ∀ word ∈ words, IsWord word) :
    wordsOf ([' '].intercalate words) = words := by
  induction words with
  | nil => rfl
  | cons word words ih =>
    obtain ⟨here, later⟩ := List.forall_mem_cons.mp each
    cases words with
    | nil =>
      rw [List.intercalate_singleton]
      exact here.wordsOf
    | cons next words =>
      rw [List.intercalate_cons_cons, List.append_assoc, List.singleton_append,
        wordsOf_append (by decide), here.wordsOf, ih later, List.singleton_append]

end Text

/-! ## Nodes -/

/-- A name in a tree, and how many brackets close behind it. -/
structure Node where
  name : String
  closing : Nat
  deriving DecidableEq, Repr

/-- A name and its brackets stand together. -/
def Node.word (node : Node) : List Char := node.name.toList ++ List.replicate node.closing ')'

/-- A node is two words in a tree. -/
def Node.words (node : Node) : List (List Char) := ["(type".toList, node.word]

namespace Descriptor

mutual

/-- The nodes of a tree, in order, when so many more brackets close behind it. -/
def nodes (closing : Nat) : Descriptor → List Node
  | ⟨name, []⟩ => [⟨name, closing + 1⟩]
  | ⟨name, first :: rest⟩ => ⟨name, 0⟩ :: nodesAll (closing + 1) (first :: rest)

/-- The nodes of several trees. The brackets close behind the last. -/
def nodesAll (closing : Nat) : List Descriptor → List Node
  | [] => []
  | [d] => nodes closing d
  | d :: next :: rest => nodes 0 d ++ nodesAll closing (next :: rest)

end

theorem nodes_ne_nil (closing : Nat) (d : Descriptor) : d.nodes closing ≠ [] := by
  obtain ⟨name, arguments⟩ := d
  cases arguments <;> simp [nodes]

theorem nodesAll_ne_nil (closing : Nat) (d : Descriptor) (ds : List Descriptor) :
    nodesAll closing (d :: ds) ≠ [] := by
  cases ds with
  | nil => exact nodes_ne_nil closing d
  | cons next rest => simp [nodesAll, nodes_ne_nil]

/-- The words of some nodes. -/
def nodeWords (nodes : List Node) : List (List Char) := nodes.flatMap Node.words

theorem nodeWords_ne_nil {nodes : List Node} (some : nodes ≠ []) : nodeWords nodes ≠ [] := by
  cases nodes with
  | nil => exact absurd rfl some
  | cons node nodes => simp [nodeWords, Node.words]

mutual

/-- A tree and the brackets behind it are the words of its nodes, with one space between. -/
theorem tree_eq (closing : Nat) : (d : Descriptor) →
    d.tree.toList ++ List.replicate closing ')' =
      [' '].intercalate (nodeWords (d.nodes closing))
  | ⟨name, []⟩ => by
    simp [tree, treeRest, nodes, nodeWords, Node.words, Node.word, List.intercalate_cons_cons,
      List.replicate_succ]
  | ⟨name, first :: rest⟩ => by
    have arguments := treeRest_eq (closing + 1) (first :: rest) (List.cons_ne_nil first rest)
    have some := nodeWords_ne_nil (nodesAll_ne_nil (closing + 1) first rest)
    have words : nodeWords (nodes closing ⟨name, first :: rest⟩) =
        "(type".toList :: name.toList :: nodeWords (nodesAll (closing + 1) (first :: rest)) := by
      simp [nodes, nodeWords, Node.words, Node.word]
    rw [words, List.intercalate_cons_cons, List.intercalate_cons_of_ne_nil some]
    simp only [List.append_assoc, List.singleton_append, ← arguments]
    simp [tree, List.replicate_succ]

/-- Every argument stands behind a space. -/
theorem treeRest_eq (closing : Nat) : (ds : List Descriptor) → ds ≠ [] →
    (treeRest ds).toList ++ List.replicate closing ')' =
      ' ' :: [' '].intercalate (nodeWords (nodesAll closing ds))
  | [], nonempty => absurd rfl nonempty
  | [d], _ => by
    have last := tree_eq closing d
    simp only [nodesAll, ← last]
    simp [treeRest]
  | d :: next :: rest, _ => by
    have first := tree_eq 0 d
    have others := treeRest_eq closing (next :: rest) (List.cons_ne_nil next rest)
    have words : nodeWords (nodesAll closing (d :: next :: rest)) =
        nodeWords (d.nodes 0) ++ nodeWords (nodesAll closing (next :: rest)) := by
      simp [nodesAll, nodeWords]
    rw [words, Text.intercalate_append _ (nodeWords_ne_nil (nodes_ne_nil 0 d))
      (nodeWords_ne_nil (nodesAll_ne_nil closing next rest)), ← first]
    rw [treeRest, String.toList_append, List.append_assoc, others]
    simp

end

mutual

/-- Every bracket that is opened is closed. -/
theorem closing_nodes (closing : Nat) : (d : Descriptor) →
    ((d.nodes closing).map Node.closing).sum = (d.nodes closing).length + closing
  | ⟨name, []⟩ => by
    simp only [nodes, List.map_cons, List.map_nil, List.sum_cons, List.sum_nil, List.length_cons,
      List.length_nil]
    omega
  | ⟨name, first :: rest⟩ => by
    have arguments := closing_nodesAll (closing + 1) (first :: rest) (List.cons_ne_nil first rest)
    simp only [nodes, List.map_cons, List.sum_cons, List.length_cons, arguments]
    omega

theorem closing_nodesAll (closing : Nat) : (ds : List Descriptor) → ds ≠ [] →
    ((nodesAll closing ds).map Node.closing).sum = (nodesAll closing ds).length + closing
  | [], nonempty => absurd rfl nonempty
  | [d], _ => closing_nodes closing d
  | d :: next :: rest, _ => by
    have first := closing_nodes 0 d
    have others := closing_nodesAll closing (next :: rest) (List.cons_ne_nil next rest)
    simp only [nodesAll, List.map_append, List.sum_append, List.length_append, first, others]
    omega

end

mutual

/-- Nodes tell the tree that they begin with, and how many more brackets close behind it. -/
theorem nodes_cancel : (d : Descriptor) → ∀ (e : Descriptor) (m n : Nat) (rest rest' : List Node),
    d.nodes m ++ rest = e.nodes n ++ rest' → d = e ∧ m = n ∧ rest = rest'
  | ⟨name, []⟩, ⟨name', []⟩, m, n, rest, rest', same => by
    simp only [nodes, List.cons_append, List.nil_append, List.cons.injEq, Node.mk.injEq] at same
    obtain ⟨⟨rfl, closing⟩, rfl⟩ := same
    exact ⟨rfl, Nat.succ.inj closing, rfl⟩
  | ⟨name, []⟩, ⟨name', first :: others⟩, m, n, rest, rest', same => by
    simp [nodes] at same
  | ⟨name, first :: others⟩, ⟨name', []⟩, m, n, rest, rest', same => by
    simp [nodes] at same
  | ⟨name, first :: others⟩, ⟨name', first' :: others'⟩, m, n, rest, rest', same => by
    simp only [nodes, List.cons_append, List.cons.injEq, Node.mk.injEq, and_true] at same
    obtain ⟨rfl, arguments⟩ := same
    obtain ⟨equal, closing, rfl⟩ := nodesAll_cancel (first :: others) (first' :: others') m n rest
      rest' (List.cons_ne_nil first others) (List.cons_ne_nil first' others') arguments
    exact ⟨by rw [equal], closing, rfl⟩

theorem nodesAll_cancel : (ds : List Descriptor) → ∀ (es : List Descriptor) (m n : Nat)
    (rest rest' : List Node), ds ≠ [] → es ≠ [] →
    nodesAll (m + 1) ds ++ rest = nodesAll (n + 1) es ++ rest' → ds = es ∧ m = n ∧ rest = rest'
  | [], _, _, _, _, _, nonempty, _, _ => absurd rfl nonempty
  | _ :: _, [], _, _, _, _, _, nonempty, _ => absurd rfl nonempty
  | [d], [e], m, n, rest, rest', _, _, same => by
    obtain ⟨rfl, closing, rfl⟩ := nodes_cancel d e (m + 1) (n + 1) rest rest' same
    exact ⟨rfl, Nat.succ.inj closing, rfl⟩
  | [d], e :: next' :: others', m, n, rest, rest', _, _, same => by
    rw [nodesAll, nodesAll, List.append_assoc] at same
    obtain ⟨-, impossible, -⟩ := nodes_cancel d e (m + 1) 0 rest _ same
    cases impossible
  | d :: next :: others, [e], m, n, rest, rest', _, _, same => by
    rw [nodesAll, nodesAll, List.append_assoc] at same
    obtain ⟨-, impossible, -⟩ := nodes_cancel d e 0 (n + 1) _ rest' same
    cases impossible
  | d :: next :: others, e :: next' :: others', m, n, rest, rest', _, _, same => by
    rw [nodesAll, nodesAll, List.append_assoc, List.append_assoc] at same
    obtain ⟨rfl, -, arguments⟩ := nodes_cancel d e 0 0 _ _ same
    obtain ⟨equal, closing, rfl⟩ := nodesAll_cancel (next :: others) (next' :: others') m n rest
      rest' (List.cons_ne_nil next others) (List.cons_ne_nil next' others') arguments
    exact ⟨by rw [equal], closing, rfl⟩

end

theorem nodes_injective {d e : Descriptor} (same : d.nodes 0 = e.nodes 0) : d = e := by
  have alone : d.nodes 0 ++ [] = e.nodes 0 ++ [] := by rw [same]
  exact (nodes_cancel d e 0 0 [] [] alone).1

/-! ## Names -/

mutual

/-- The names of a descriptor, each before those of its arguments. -/
def names : Descriptor → List String
  | ⟨name, arguments⟩ => name :: namesAll arguments

def namesAll : List Descriptor → List String
  | [] => []
  | d :: ds => names d ++ namesAll ds

end

/-- No name ends in a bracket that could be taken for one of the tree. -/
def Unbracketed (d : Descriptor) : Prop := ∀ name ∈ d.names, name.toList.getLast? ≠ some ')'

instance : DecidablePred Unbracketed := fun d =>
  inferInstanceAs (Decidable (∀ name ∈ d.names, name.toList.getLast? ≠ some ')'))

mutual

theorem names_nodes (closing : Nat) : (d : Descriptor) →
    (d.nodes closing).map Node.name = d.names
  | ⟨name, []⟩ => by simp [nodes, names, namesAll]
  | ⟨name, first :: rest⟩ => by
    simp [nodes, names, names_nodesAll (closing + 1) (first :: rest)]

theorem names_nodesAll (closing : Nat) : (ds : List Descriptor) →
    (nodesAll closing ds).map Node.name = namesAll ds
  | [] => rfl
  | [d] => by simp [nodesAll, namesAll, names_nodes closing d]
  | d :: next :: rest => by
    have others := names_nodesAll closing (next :: rest)
    simp [nodesAll, namesAll, names_nodes 0 d, others]

end

mutual

theorem WellNamed.isName : (d : Descriptor) → d.WellNamed → ∀ name ∈ d.names, IsName name
  | ⟨name, arguments⟩, named => by
    rw [names]
    exact List.forall_mem_cons.mpr ⟨named.1, AllWellNamed.isName arguments named.2⟩

theorem AllWellNamed.isName : (ds : List Descriptor) → AllWellNamed ds →
    ∀ name ∈ namesAll ds, IsName name
  | [], _ => List.forall_mem_nil _
  | d :: ds, named => by
    rw [namesAll]
    exact List.forall_mem_append.mpr
      ⟨WellNamed.isName d named.1, AllWellNamed.isName ds named.2⟩

end

theorem IsName.isWord {name : String} (h : IsName name) (closing : Nat) :
    Text.IsWord (Node.word ⟨name, closing⟩) := by
  constructor
  · simp [Node.word, h.1]
  · intro c member
    rcases List.mem_append.mp member with letter | bracket
    · have visible := h.2 c letter
      simp only [Signature.isNameChar, Bool.not_eq_true', Bool.or_eq_false_iff] at visible
      exact visible.2
    · rw [List.eq_of_mem_replicate bracket]
      decide

/-- The words of a tree that a signature stands for. -/
theorem words_tree {d : Descriptor} (named : d.WellNamed) :
    Text.words d.tree = nodeWords (d.nodes 0) := by
  have each : ∀ word ∈ nodeWords (d.nodes 0), Text.IsWord word := by
    intro word member
    obtain ⟨node, among, part⟩ := List.mem_flatMap.mp member
    have name : node.name ∈ d.names := by
      rw [← names_nodes 0 d]
      exact List.mem_map_of_mem among
    simp only [Node.words, List.mem_cons, List.not_mem_nil, or_false] at part
    rcases part with rfl | rfl
    · simp [Text.IsWord, Text.isBlank]
    · exact (WellNamed.isName d named _ name).isWord node.closing
  have text := tree_eq 0 d
  rw [List.replicate_zero, List.append_nil] at text
  calc Text.words d.tree = Text.wordsOf d.tree.toList := rfl
    _ = Text.wordsOf ([' '].intercalate (nodeWords (d.nodes 0))) := by rw [text]
    _ = nodeWords (d.nodes 0) := Text.wordsOf_intercalate each

theorem nodeWords_cons (node : Node) (nodes : List Node) :
    nodeWords (node :: nodes) = "(type".toList :: node.word :: nodeWords nodes := rfl

/-- The text of a tree has no more to it than its words. -/
theorem tree_of_nodeWords {d e : Descriptor}
    (same : nodeWords (d.nodes 0) = nodeWords (e.nodes 0)) : d.tree = e.tree := by
  have text := tree_eq 0 d
  rw [same, ← tree_eq 0 e] at text
  exact String.toList_inj.mp (List.append_cancel_right text)

theorem word_of_nodeWords {a b : List Node} (same : nodeWords a = nodeWords b) :
    a.map Node.word = b.map Node.word := by
  induction a generalizing b with
  | nil =>
    cases b with
    | nil => rfl
    | cons node nodes => cases same
  | cons node nodes ih =>
    cases b with
    | nil => cases same
    | cons node' nodes' =>
      simp only [nodeWords_cons, List.cons.injEq, true_and] at same
      rw [List.map_cons, List.map_cons, same.1, ih same.2]

end Descriptor

/-! ## Trees that look alike -/

/-- Where a name ends in no bracket, all the brackets of its word close there, and a node with the
same word can only have given some of them to its name. -/
theorem Node.closing_le {a b : Node} (plain : a.name.toList.getLast? ≠ some ')')
    (same : a.word = b.word) : b.closing ≤ a.closing := by
  by_contra fewer
  have more : b.closing = (b.closing - a.closing - 1) + 1 + a.closing := by omega
  rw [word, word, more, ← List.replicate_append_replicate, ← List.append_assoc] at same
  have name := List.append_cancel_right same
  rw [name, List.replicate_succ', ← List.append_assoc, List.getLast?_concat] at plain
  exact plain rfl

theorem Node.eq_of_closing {a b : Node} (closing : a.closing = b.closing)
    (same : a.word = b.word) : a = b := by
  rw [word, word, closing] at same
  have name : a.name = b.name := String.toList_inj.mp (List.append_cancel_right same)
  cases a
  cases b
  cases name
  cases closing
  rfl

/-- Nodes with the same words are the same nodes, unless fewer brackets close behind the others. -/
theorem nodes_eq {a b : List Node} (plain : ∀ node ∈ a, node.name.toList.getLast? ≠ some ')')
    (same : a.map Node.word = b.map Node.word) :
    (b.map Node.closing).sum ≤ (a.map Node.closing).sum ∧
      ((b.map Node.closing).sum = (a.map Node.closing).sum → a = b) := by
  induction a generalizing b with
  | nil =>
    cases b with
    | nil => exact ⟨Nat.le_refl _, fun _ => rfl⟩
    | cons node nodes => cases same
  | cons node nodes ih =>
    cases b with
    | nil => cases same
    | cons node' nodes' =>
      obtain ⟨here, later⟩ := List.forall_mem_cons.mp plain
      rw [List.map_cons, List.map_cons, List.cons.injEq] at same
      obtain ⟨fewer, equal⟩ := ih later same.2
      have least := Node.closing_le here same.1
      simp only [List.map_cons, List.sum_cons]
      refine ⟨by omega, fun total => ?_⟩
      rw [Node.eq_of_closing (by omega) same.1, equal (by omega)]

namespace Descriptor

/-- A tree whose names end in no bracket looks like no other. -/
theorem Unbracketed.eq_of_nodeWords {d e : Descriptor} (plain : d.Unbracketed)
    (same : nodeWords (d.nodes 0) = nodeWords (e.nodes 0)) : d = e := by
  have words := word_of_nodeWords same
  have length : (d.nodes 0).length = (e.nodes 0).length := by
    simpa using congrArg List.length words
  have total : ((e.nodes 0).map Node.closing).sum = ((d.nodes 0).map Node.closing).sum := by
    rw [closing_nodes, closing_nodes, length]
  have each : ∀ node ∈ d.nodes 0, node.name.toList.getLast? ≠ some ')' := by
    intro node among
    apply plain
    rw [← names_nodes 0 d]
    exact List.mem_map_of_mem among
  exact nodes_injective ((nodes_eq each words).2 total)

theorem nodeWords_eq_iff {d e : Descriptor} (plain : d.Unbracketed ∨ e.Unbracketed) :
    nodeWords (d.nodes 0) = nodeWords (e.nodes 0) ↔ d = e := by
  constructor
  · intro same
    rcases plain with plain | plain
    · exact plain.eq_of_nodeWords same
    · exact (plain.eq_of_nodeWords same.symm).symm
  · intro same
    rw [same]

end Descriptor

namespace CaseFile

open Signature (parse wellNamed_of_parse)

theorem Verdict.compare_eq_pass {expected actual : String} :
    compare expected actual = .pass ↔ Text.words expected = Text.words actual := by
  unfold compare
  split
  · rename_i same
    exact iff_of_true rfl same
  · rename_i other
    exact iff_of_false (by rintro ⟨⟩) other

theorem Verdict.compare_tree {d e : Descriptor} (named : d.WellNamed) (named' : e.WellNamed) :
    compare d.tree e.tree = .pass ↔
      Descriptor.nodeWords (d.nodes 0) = Descriptor.nodeWords (e.nodes 0) := by
  rw [compare_eq_pass, Descriptor.words_tree named, Descriptor.words_tree named']

/-- A case that expects no error and whose signature is read compares two texts. -/
theorem Block.runSignature_of_parse {block : Block} {d : Descriptor}
    (answers : block.header? "expect" ≠ some "error") (read : parse block.input = .ok d) :
    block.runSignature = .compare block.expected d.tree := by
  rw [runSignature, expectation, if_neg answers, read]
  rfl

/-- **When two trees are told apart.** Trees of signatures pass for the same just when their texts
are. If no name in one of them ends in a closing bracket, they are then the same tree, and a case
that expects the one passes for no signature of another. -/
theorem trees_told_apart {s t : String} {d e : Descriptor} (read : parse s = .ok d)
    (read' : parse t = .ok e) :
    (Verdict.compare d.tree e.tree = .pass ↔ d.tree = e.tree) ∧
      (d.Unbracketed ∨ e.Unbracketed →
        (Verdict.compare d.tree e.tree = .pass ↔ d = e) ∧
          ∀ block : Block, block.header? "expect" ≠ some "error" → block.input = s →
            block.expected = e.tree → (block.runSignature = .pass ↔ d = e)) := by
  have compared := Verdict.compare_tree (wellNamed_of_parse read) (wellNamed_of_parse read')
  have compared' := Verdict.compare_tree (wellNamed_of_parse read') (wellNamed_of_parse read)
  constructor
  · constructor
    · exact fun pass => Descriptor.tree_of_nodeWords (compared.mp pass)
    · intro same
      rw [same, Verdict.compare_eq_pass]
  · intro plain
    have equal := Descriptor.nodeWords_eq_iff plain
    refine ⟨compared.trans equal, ?_⟩
    rintro block answers rfl expected
    rw [Block.runSignature_of_parse answers read, expected, compared', eq_comm, equal]

/-- Brackets elsewhere in names do no harm, and one tree without them at the ends is enough. -/
theorem brackets_inside_told_apart :
    let d : Descriptor := ⟨"Map", [.simple "(a", ⟨"List", [.simple ")b"]⟩]⟩
    let e : Descriptor := ⟨"Map", [.simple "(a)", ⟨"List)", [.simple "b)"]⟩]⟩
    parse "Map<(a, List<)b>>" = .ok d ∧ parse "Map<(a), List)<b)>>" = .ok e ∧ d.Unbracketed ∧
      Verdict.compare d.tree e.tree ≠ .pass := by
  intro d e
  have read : parse "Map<(a, List<)b>>" = .ok d := by decide +kernel
  have read' : parse "Map<(a), List)<b)>>" = .ok e := by decide +kernel
  have plain : d.Unbracketed := by decide +kernel
  obtain ⟨-, apart⟩ := trees_told_apart read read'
  refine ⟨read, read', plain, fun pass => ?_⟩
  have same : d = e := (apart (.inl plain)).1.mp pass
  exact absurd same (by decide +kernel)

/-- The bracket of a name is taken for the end of its node, and the bracket of the node for the end
of the other name: a case that expects two arguments passes with one that has an argument itself. -/
theorem bracketed_names_look_alike :
    let d : Descriptor := ⟨"A", [.simple "B", .simple "X)"]⟩
    let e : Descriptor := ⟨"A", [⟨"B)", [.simple "X"]⟩]⟩
    parse "A<B,X)>" = .ok d ∧ parse "A<B)<X>>" = .ok e ∧ d ≠ e ∧
      Verdict.compare d.tree e.tree = .pass ∧
      (blocks ("# test: t\n---\nA<B)<X>>\n---\n" ++ d.tree ++ "\n===\n")).map
        Block.runSignature = [.pass] := by
  decide +kernel

end CaseFile

end TypedConfig
