import BootcOperator.Controller.PullSecret
import Mathlib.Data.List.Nodup

/-!
# Parsing lists of namespaces

One loop trims, drops, deduplicates and validates the entries of the flag.
What it has collected is described by the entries that it has visited:
`Collects` holds before and after each iteration, and an iteration fails only
at an entry that is not a label.
-/

namespace BootcOperator

variable {namespaces rest : List String} {text : String}

def isLabelChar (c : Char) : Bool :=
  c.isLower || c.isDigit || c = '-'

/-- A DNS-1123 label: lower case letters, digits and dashes, at most 63 of
them, with no dash at either end. -/
structure IsDNS1123Label (text : String) : Prop where
  length : text.toList.length ≤ 63
  nonempty : text.toList ≠ []
  chars : ∀ c ∈ text.toList, isLabelChar c = true
  head : text.toList.head? ≠ some '-'
  last : text.toList.getLast? ≠ some '-'

instance (text : String) : Decidable (IsDNS1123Label text) :=
  decidable_of_iff
    (text.toList.length ≤ 63 ∧ text.toList ≠ [] ∧
      text.toList.all isLabelChar = true ∧
      text.toList.head? ≠ some '-' ∧ text.toList.getLast? ≠ some '-')
    ⟨fun ⟨length, nonempty, chars, head, last⟩ =>
        ⟨length, nonempty, List.all_eq_true.mp chars, head, last⟩,
      fun label => ⟨label.length, label.nonempty,
        List.all_eq_true.mpr label.chars, label.head, label.last⟩⟩

theorem isSpace_of_isLabelChar {c : Char} (label : isLabelChar c = true) :
    isSpace c = false := by
  have range : c.toNat = 0x2D ∨ (0x30 ≤ c.toNat ∧ c.toNat ≤ 0x39) ∨
      (0x61 ≤ c.toNat ∧ c.toNat ≤ 0x7A) := by
    have lower : c.isLower =
        (decide ('a'.val ≤ c.val) && decide (c.val ≤ 'z'.val)) := rfl
    simp only [isLabelChar, Bool.or_eq_true, lower, Char.isDigit,
      Bool.and_eq_true, decide_eq_true_eq] at label
    rcases label with (⟨low, high⟩ | ⟨low, high⟩) | dash
    · exact .inr (.inr ⟨low, high⟩)
    · exact .inr (.inl ⟨low, high⟩)
    · exact .inl (by rw [dash]; rfl)
  simp only [isSpace, List.mem_cons, List.not_mem_nil, or_false,
    Bool.or_eq_false_iff, decide_eq_false_iff_not, Bool.and_eq_false_iff]
  omega

theorem trimSpace_of_label (label : IsDNS1123Label text) :
    trimSpace text = text := by
  have front : text.toList.dropWhile isSpace = text.toList := by
    rw [List.dropWhile_eq_self_iff]
    intro nonempty
    rw [isSpace_of_isLabelChar (label.chars _ (List.getElem_mem _))]
    exact Bool.false_ne_true
  have back : text.toList.rdropWhile isSpace = text.toList := by
    rw [List.rdropWhile_eq_self_iff]
    intro nonempty
    rw [isSpace_of_isLabelChar (label.chars _ (List.getLast_mem _))]
    exact Bool.false_ne_true
  rw [trimSpace, front, back, String.ofList_toList]

theorem not_comma_of_label (label : IsDNS1123Label text) :
    ',' ∉ text.toList :=
  fun comma => absurd (label.chars _ comma) (by decide)

theorem ne_empty_of_label (label : IsDNS1123Label text) :
    text ≠ "" := by
  rintro rfl
  exact label.nonempty rfl

/-! ## The loop -/

/-- The list holds what the visited texts amount to, in the order in which
they occur first. -/
structure Collects (visited namespaces : List String) : Prop where
  nodup : namespaces.Nodup
  mem : ∀ ns, ns ∈ namespaces ↔ ns ∈ visited ∧ ns ≠ ""
  ordered : namespaces.Pairwise fun first second =>
    visited.idxOf first < visited.idxOf second

theorem Collects.nil : Collects [] [] :=
  ⟨.nil, by simp, .nil⟩

section

variable {visited : List String} {ns : String}

theorem idxOf_append_of_collected
    (collects : Collects visited namespaces) (member : ns ∈ namespaces)
    (rest : List String) :
    (visited ++ rest).idxOf ns = visited.idxOf ns :=
  List.idxOf_append_of_mem ((collects.mem ns).mp member).1

theorem Collects.ordered_append
    (collects : Collects visited namespaces) (rest : List String) :
    namespaces.Pairwise fun first second =>
      (visited ++ rest).idxOf first < (visited ++ rest).idxOf second := by
  refine collects.ordered.imp_of_mem ?_
  intro first second firstMember secondMember before
  rw [idxOf_append_of_collected collects firstMember,
    idxOf_append_of_collected collects secondMember]
  exact before

theorem Collects.skip
    (collects : Collects visited namespaces)
    (skipped : ns = "" ∨ ns ∈ namespaces) :
    Collects (visited ++ [ns]) namespaces where
  nodup := collects.nodup
  mem other := by
    rw [collects.mem, List.mem_append, List.mem_singleton]
    constructor
    · rintro ⟨member, nonempty⟩
      exact ⟨.inl member, nonempty⟩
    · rintro ⟨member | rfl, nonempty⟩
      · exact ⟨member, nonempty⟩
      · rcases skipped with empty | member
        · exact absurd empty nonempty
        · exact (collects.mem _).mp member
  ordered := collects.ordered_append [ns]

theorem Collects.add
    (collects : Collects visited namespaces) (nonempty : ns ≠ "")
    (fresh : ns ∉ namespaces) :
    Collects (visited ++ [ns]) (namespaces ++ [ns]) := by
  have unvisited : ns ∉ visited :=
    fun member => fresh ((collects.mem ns).mpr ⟨member, nonempty⟩)
  refine ⟨?_, fun other => ?_, ?_⟩
  · rw [List.nodup_append]
    refine ⟨collects.nodup, List.nodup_singleton ns, ?_⟩
    intro first firstMember second secondMember same
    rw [List.mem_singleton.mp secondMember] at same
    exact fresh (same ▸ firstMember)
  · rw [List.mem_append, List.mem_append, List.mem_singleton, collects.mem]
    constructor
    · rintro (⟨member, isNonempty⟩ | rfl)
      · exact ⟨.inl member, isNonempty⟩
      · exact ⟨.inr rfl, nonempty⟩
    · rintro ⟨member | rfl, isNonempty⟩
      · exact .inl ⟨member, isNonempty⟩
      · exact .inr rfl
  · rw [List.pairwise_append]
    refine ⟨collects.ordered_append [ns], List.pairwise_singleton _ _, ?_⟩
    intro first firstMember second secondMember
    rw [List.mem_singleton.mp secondMember,
      idxOf_append_of_collected collects firstMember,
      List.idxOf_append_of_notMem unvisited]
    exact (List.idxOf_lt_length_of_mem
      ((collects.mem first).mp firstMember).1).trans_le (Nat.le_add_right _ _)

theorem foldlM_cons_of_ok
    {α β ε : Type} {body : β → α → Except ε β} {acc acc' : β} {x : α}
    (returned : body acc x = .ok acc') (rest : List α) :
    (x :: rest).foldlM body acc = rest.foldlM body acc' := by
  rw [List.foldlM_cons, returned]
  rfl

/-- What the loop makes of entries behind those that it has visited. -/
inductive Parsed (visited entries : List String) :
    Except String (List String) → Prop
  | collected {result : List String} :
      Collects (visited ++ entries.map trimSpace) result →
      (∀ ns ∈ result, IsDNS1123Label ns) →
      Parsed visited entries (.ok result)
  | refused {entry err : String} :
      entry ∈ entries → trimSpace entry ≠ "" →
      ¬ IsDNS1123Label (trimSpace entry) →
      Parsed visited entries (.error err)

theorem Parsed.cons
    {entry : String} {outcome : Except String (List String)}
    (parsed : Parsed (visited ++ [trimSpace entry]) rest outcome) :
    Parsed visited (entry :: rest) outcome := by
  cases parsed with
  | collected collects labels =>
      refine .collected ?_ labels
      rw [List.map_cons, ← List.singleton_append, ← List.append_assoc]
      exact collects
  | refused member nonempty notLabel =>
      exact .refused (List.mem_cons_of_mem _ member) nonempty notLabel

end

section Parsing

variable {isDNS1123Label : String → List String}
  (validates : ∀ text, isDNS1123Label text = [] ↔ IsDNS1123Label text)
include validates

/-- One iteration: the entry is skipped, refused or added. -/
theorem addNamespace_cases (namespaces : List String) (entry : String) :
    (trimSpace entry = "" ∨ trimSpace entry ∈ namespaces) ∧
        addNamespace isDNS1123Label namespaces entry = .ok namespaces ∨
      trimSpace entry ≠ "" ∧ trimSpace entry ∉ namespaces ∧
        (¬ IsDNS1123Label (trimSpace entry) ∧
            (∃ err, addNamespace isDNS1123Label namespaces entry =
              .error err) ∨
          IsDNS1123Label (trimSpace entry) ∧
            addNamespace isDNS1123Label namespaces entry =
              .ok (namespaces ++ [trimSpace entry])) := by
  unfold addNamespace
  dsimp only
  split_ifs with skipped valid
  · exact .inl ⟨skipped, rfl⟩
  · rw [not_or] at skipped
    refine .inr ⟨skipped.1, skipped.2, .inl ⟨?_, _, rfl⟩⟩
    rw [← validates]
    exact valid
  · rw [not_or] at skipped
    refine .inr ⟨skipped.1, skipped.2, .inr ⟨?_, rfl⟩⟩
    rw [← validates]
    exact not_not.mp valid

/-- The loop fails only at an entry that is not a label, and otherwise
collects all of them. -/
theorem parsed_foldlM
    (entries : List String) {visited : List String}
    (collects : Collects visited namespaces)
    (labels : ∀ ns ∈ namespaces, IsDNS1123Label ns) :
    Parsed visited entries
      (entries.foldlM (addNamespace isDNS1123Label) namespaces) := by
  induction entries generalizing visited namespaces with
  | nil =>
      refine .collected ?_ labels
      rw [List.map_nil, List.append_nil]
      exact collects
  | cons entry rest ih =>
      rcases addNamespace_cases validates namespaces entry with
        ⟨skipped, same⟩ | ⟨nonempty, fresh, ⟨notLabel, err, refused⟩ |
          ⟨label, added⟩⟩
      · rw [foldlM_cons_of_ok same]
        exact (ih (collects.skip skipped) labels).cons
      · rw [List.foldlM_cons, refused]
        exact .refused List.mem_cons_self nonempty notLabel
      · rw [foldlM_cons_of_ok added]
        refine (ih (collects.add nonempty fresh) ?_).cons
        intro ns member
        rcases List.mem_append.mp member with before | last
        · exact labels ns before
        · rw [List.mem_singleton.mp last]
          exact label

/-- Labels that are new and distinct are all added. -/
theorem foldlM_addNamespace_of_labels
    {entries : List String} (labels : ∀ ns ∈ entries, IsDNS1123Label ns)
    (nodup : (namespaces ++ entries).Nodup) :
    entries.foldlM (addNamespace isDNS1123Label) namespaces =
      .ok (namespaces ++ entries) := by
  induction entries generalizing namespaces with
  | nil => simp [List.foldlM, pure, Except.pure]
  | cons ns rest ih =>
      have label := labels ns List.mem_cons_self
      have fresh : ns ∉ namespaces := by
        intro member
        exact (List.nodup_append.mp nodup).2.2 ns member ns
          List.mem_cons_self rfl
      have added : addNamespace isDNS1123Label namespaces ns =
          .ok (namespaces ++ [ns]) := by
        have kept := trimSpace_of_label label
        rcases addNamespace_cases validates namespaces ns with
          ⟨empty | member, _⟩ | ⟨_, _, ⟨notLabel, _⟩ | ⟨_, added⟩⟩
        · exact absurd (kept ▸ empty) (ne_empty_of_label label)
        · exact absurd (kept ▸ member) fresh
        · exact absurd (kept.symm ▸ label) notLabel
        · rw [added, kept]
      rw [foldlM_cons_of_ok added, ih (fun other member =>
          labels other (List.mem_cons_of_mem _ member))
          (by rwa [List.append_assoc, List.singleton_append]),
        List.append_assoc, List.singleton_append]

omit validates in
theorem splitCommas_intercalate
    (labels : ∀ ns ∈ namespaces, IsDNS1123Label ns)
    (nonempty : namespaces ≠ []) :
    splitCommas (String.intercalate "," namespaces) = namespaces := by
  have split : ([','].intercalate (namespaces.map String.toList)).splitOn ',' =
      namespaces.map String.toList := by
    refine List.splitOn_intercalate ',' ?_ (by simpa using nonempty)
    intro text member
    obtain ⟨ns, isMember, rfl⟩ := List.mem_map.mp member
    exact not_comma_of_label (labels ns isMember)
  have chars : (String.intercalate "," namespaces).toList =
      [','].intercalate (namespaces.map String.toList) :=
    String.toList_intercalate
  rw [splitCommas, chars, split, List.map_map]
  simp only [Function.comp_def, String.ofList_toList, List.map_id']

theorem parsed_parsePullSecretNamespaces (value operatorNamespace : String) :
    Parsed [] ([operatorNamespace] ++ splitCommas value)
      (parsePullSecretNamespaces isDNS1123Label value operatorNamespace) :=
  parsed_foldlM validates _ .nil (by simp)

omit validates in
/-- The first entry comes first, unless it is empty. -/
theorem Collects.head
    {first : String} (collects : Collects (first :: rest) namespaces)
    (nonempty : first ≠ "") :
    ∃ others, namespaces = first :: others := by
  have member : first ∈ namespaces :=
    (collects.mem first).mpr ⟨List.mem_cons_self, nonempty⟩
  cases namespaces with
  | nil => cases member
  | cons ns others =>
      rcases List.mem_cons.mp member with rfl | later
      · exact ⟨others, rfl⟩
      · have before := (List.pairwise_cons.mp collects.ordered).1 first later
        rw [List.idxOf_cons_self] at before
        exact absurd before (Nat.not_lt_zero _)

/-- Parsing what was parsed changes nothing. -/
theorem parse_of_collected
    {operatorNamespace : String}
    (collects : Collects (trimSpace operatorNamespace :: rest) namespaces)
    (labels : ∀ ns ∈ namespaces, IsDNS1123Label ns) :
    ([operatorNamespace] ++
        splitCommas (String.intercalate "," namespaces)).foldlM
      (addNamespace isDNS1123Label) [] = .ok namespaces := by
  rw [List.singleton_append]
  by_cases empty : trimSpace operatorNamespace = ""
  · have skipped : addNamespace isDNS1123Label [] operatorNamespace = .ok [] := by
      rw [addNamespace]
      dsimp only
      rw [if_pos (.inl empty)]
    rw [foldlM_cons_of_ok skipped]
    by_cases none : namespaces = []
    · rw [none]
      rfl
    · rw [splitCommas_intercalate labels none]
      exact foldlM_addNamespace_of_labels validates labels collects.nodup
  · obtain ⟨others, rfl⟩ := collects.head empty
    have label := labels _ List.mem_cons_self
    have added : addNamespace isDNS1123Label [] operatorNamespace =
        .ok [trimSpace operatorNamespace] := by
      rcases addNamespace_cases validates [] operatorNamespace with
        ⟨isEmpty | member, _⟩ | ⟨_, _, ⟨notLabel, _⟩ | ⟨_, added⟩⟩
      · exact absurd isEmpty empty
      · cases member
      · exact absurd label notLabel
      · exact added
    have again : addNamespace isDNS1123Label [trimSpace operatorNamespace]
        (trimSpace operatorNamespace) = .ok [trimSpace operatorNamespace] := by
      rw [addNamespace]
      dsimp only
      rw [trimSpace_of_label label, if_pos (.inr (List.mem_singleton_self _))]
    rw [foldlM_cons_of_ok added,
      splitCommas_intercalate labels (List.cons_ne_nil _ _),
      foldlM_cons_of_ok again]
    exact foldlM_addNamespace_of_labels validates
      (fun ns member => labels ns (List.mem_cons_of_mem _ member))
      collects.nodup

end Parsing

/-- The operator's namespace, then the entries of the flag. -/
def trimmedEntries (value operatorNamespace : String) : List String :=
  ([operatorNamespace] ++ splitCommas value).map trimSpace

/-- Exactly the lists of labels are accepted, and what is returned is the list
without repetitions. -/
theorem parse_pull_secret_namespaces_exact
    (isDNS1123Label : String → List String)
    (validates : ∀ text, isDNS1123Label text = [] ↔ IsDNS1123Label text)
    (value operatorNamespace : String) :
    ((∃ err, parsePullSecretNamespaces isDNS1123Label value
        operatorNamespace = .error err) ↔
      ∃ ns ∈ trimmedEntries value operatorNamespace, ns ≠ "" ∧
        ¬ IsDNS1123Label ns) ∧
    ∀ result, parsePullSecretNamespaces isDNS1123Label value
        operatorNamespace = .ok result →
      Collects (trimmedEntries value operatorNamespace) result ∧
      (trimSpace operatorNamespace ≠ "" →
        result.head? = some (trimSpace operatorNamespace)) ∧
      parsePullSecretNamespaces isDNS1123Label
        (String.intercalate "," result) operatorNamespace = .ok result := by
  have parsed := parsed_parsePullSecretNamespaces validates value
    operatorNamespace
  generalize parsePullSecretNamespaces isDNS1123Label value
    operatorNamespace = outcome at parsed ⊢
  cases parsed with
  | collected collects labels =>
      rw [List.nil_append] at collects
      refine ⟨⟨?_, ?_⟩, ?_⟩
      · rintro ⟨err, failed⟩
        cases failed
      · rintro ⟨ns, member, nonempty, notLabel⟩
        exact absurd (labels ns ((collects.mem ns).mpr ⟨member, nonempty⟩))
          notLabel
      · rintro result ⟨rfl⟩
        refine ⟨collects, fun nonempty => ?_,
          parse_of_collected validates collects labels⟩
        obtain ⟨others, rfl⟩ := collects.head nonempty
        rfl
  | refused member nonempty notLabel =>
      refine ⟨⟨fun _ => ?_, fun _ => ⟨_, rfl⟩⟩, ?_⟩
      · exact ⟨_, List.mem_map_of_mem member, nonempty, notLabel⟩
      · rintro result ⟨⟩

def labelErrors (text : String) : List String :=
  if IsDNS1123Label text then [] else ["not a DNS-1123 label"]

/-- Blanks, empty entries and repetitions go. -/
theorem parse_pull_secret_namespaces_exact_op :
    parsePullSecretNamespaces labelErrors " a,,op,a" "op" =
        .ok ["op", "a"] ∧
      parsePullSecretNamespaces labelErrors
          (String.intercalate "," ["op", "a"]) "op" =
        .ok ["op", "a"] := by
  have validates : ∀ text, labelErrors text = [] ↔ IsDNS1123Label text := by
    intro text
    unfold labelErrors
    split <;> simp_all
  have parsed : parsePullSecretNamespaces labelErrors " a,,op,a"
      "op" = .ok ["op", "a"] := by
    decide +kernel
  exact ⟨parsed, ((parse_pull_secret_namespaces_exact labelErrors validates
    " a,,op,a" "op").2 _ parsed).2.2⟩

end BootcOperator
