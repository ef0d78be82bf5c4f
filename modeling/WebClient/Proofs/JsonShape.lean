import Mathlib.Tactic.Common
import WebClient.Json.Reader
import WebClient.Proofs.Ascending

/-!
# JsonShape — how values are built

Two measures of a value, and what becomes of them when a text is read and made canonical.

* `Json.isIntegral` holds of values whose numbers are all integers of 64 bits.
* `Json.depth` counts how deep arrays and objects are nested; a value that was read from a text is
  nested no deeper than the reader goes (`Json.depth_of_parse?`).
* `Json.PartOf` relates a value to all that stands in it.
* Making a value canonical twice is making it canonical once (`Json.canonical_canonical`).
-/

namespace WebClient
namespace Json

/-! ## Numbers and nesting -/

mutual
/-- Whether every number in a value is an integer that fits 64 bits, signed or unsigned. -/
def isIntegral : Json → Bool
  | .int n => minInt64 ≤ n && n < Literal.wordLimit
  | .float _ => false
  | .array items => areIntegral items
  | .object members => membersAreIntegral members
  | _ => true

def areIntegral : List Json → Bool
  | [] => true
  | item :: rest => item.isIntegral && areIntegral rest

def membersAreIntegral : List (String × Json) → Bool
  | [] => true
  | (_, value) :: rest => value.isIntegral && membersAreIntegral rest
end

mutual
/-- How deep arrays and objects are nested. -/
def depth : Json → Nat
  | .array items => depthOfItems items + 1
  | .object members => depthOfMembers members + 1
  | _ => 0

def depthOfItems : List Json → Nat
  | [] => 0
  | item :: rest => max item.depth (depthOfItems rest)

def depthOfMembers : List (String × Json) → Nat
  | [] => 0
  | (_, value) :: rest => max value.depth (depthOfMembers rest)
end

theorem areIntegral_iff {items : List Json} :
    areIntegral items = true ↔ ∀ item ∈ items, item.isIntegral = true := by
  induction items with
  | nil => simp [areIntegral]
  | cons item rest ih => simp [areIntegral, ih]

theorem membersAreIntegral_iff {members : List (String × Json)} :
    membersAreIntegral members = true ↔ ∀ entry ∈ members, entry.2.isIntegral = true := by
  induction members with
  | nil => simp [membersAreIntegral]
  | cons entry rest ih => simp [membersAreIntegral, ih]

theorem depthOfItems_le_iff {items : List Json} {d : Nat} :
    depthOfItems items ≤ d ↔ ∀ item ∈ items, item.depth ≤ d := by
  induction items with
  | nil => simp [depthOfItems]
  | cons item rest ih => simp [depthOfItems, ih]

theorem depthOfMembers_le_iff {members : List (String × Json)} {d : Nat} :
    depthOfMembers members ≤ d ↔ ∀ entry ∈ members, entry.2.depth ≤ d := by
  induction members with
  | nil => simp [depthOfMembers]
  | cons entry rest ih => simp [depthOfMembers, ih]

/-- Induction over values, with one hypothesis for all items or members. -/
@[elab_as_elim]
theorem induction {motive : Json → Prop} (null : motive .null)
    (bool : ∀ b, motive (.bool b)) (int : ∀ n, motive (.int n)) (float : ∀ x, motive (.float x))
    (string : ∀ s, motive (.string s))
    (array : ∀ items, (∀ item ∈ items, motive item) → motive (.array items))
    (object : ∀ members, (∀ entry ∈ members, motive entry.2) → motive (.object members))
    (value : Json) : motive value := by
  -- The recursor wants a motive for lists of items, lists of members and single members as well.
  refine @Json.rec motive (fun items => ∀ item ∈ items, motive item)
    (fun members => ∀ entry ∈ members, motive entry.2) (fun entry => motive entry.2)
    null bool int float string array object ?_ ?_ ?_ ?_ ?_ value
  · simp
  · intro item rest hitem hrest
    simpa using ⟨hitem, hrest⟩
  · simp
  · intro entry rest hentry hrest
    exact List.forall_mem_cons.2 ⟨hentry, hrest⟩
  · exact fun key value hvalue => hvalue

/-! ## Canonical values -/

theorem canonicalItems_eq_map (items : List Json) :
    canonicalItems items = items.map canonical := by
  induction items with
  | nil => rfl
  | cons item rest ih => simp [canonicalItems, ih]

theorem canonicalMembers_eq_map (members : List (String × Json)) :
    canonicalMembers members = members.map fun entry => (entry.1, entry.2.canonical) := by
  induction members with
  | nil => rfl
  | cons entry rest ih => simp [canonicalMembers, ih]

/-- Every member of a canonical object was there before, with a value that was made canonical. -/
theorem exists_of_mem_canonical {members : List (String × Json)} {entry : String × Json}
    (h : entry ∈ Dict.ofList (canonicalMembers members)) :
    ∃ source ∈ members, entry = (source.1, source.2.canonical) := by
  rw [canonicalMembers_eq_map] at h
  rcases List.mem_map.1 (Dict.mem_of_mem_ofList h) with ⟨source, hsource, rfl⟩
  exact ⟨source, hsource, rfl⟩

theorem map_canonical_eq_self {members : List (String × Json)}
    (h : ∀ entry ∈ members, entry.2.canonical = entry.2) :
    members.map (fun entry => (entry.1, entry.2.canonical)) = members := by
  calc
    members.map (fun entry => (entry.1, entry.2.canonical)) = members.map id :=
          List.map_congr_left fun entry hentry => Prod.ext rfl (h entry hentry)
    _ = members := List.map_id members

theorem object_canonical_eq_self {members : Dict Json} (hascending : members.Ascending)
    (hvalues : ∀ entry ∈ members, entry.2.canonical = entry.2) :
    Dict.ofList (canonicalMembers members) = members := by
  rw [canonicalMembers_eq_map, map_canonical_eq_self hvalues, Dict.ofList_eq_self hascending]

theorem canonical_canonical (value : Json) : value.canonical.canonical = value.canonical := by
  induction value using Json.induction with
  | null => rfl
  | bool b => rfl
  | int n => rfl
  | float x => rfl
  | string s => rfl
  | array items ih =>
      simp only [canonical, canonicalItems_eq_map, List.map_map]
      congr 1
      exact List.map_congr_left ih
  | object members ih =>
      -- Now the members ascend and their values are canonical: binding them anew changes nothing.
      refine congrArg Json.object ?_
      refine object_canonical_eq_self (Dict.ascending_ofList _) ?_
      intro entry hentry
      rcases exists_of_mem_canonical hentry with ⟨source, hsource, rfl⟩
      exact ih source hsource

theorem depth_canonical_le (value : Json) : value.canonical.depth ≤ value.depth := by
  induction value using Json.induction with
  | null => exact Nat.le_refl _
  | bool b => exact Nat.le_refl _
  | int n => exact Nat.le_refl _
  | float x => exact Nat.le_refl _
  | string s => exact Nat.le_refl _
  | array items ih =>
      refine Nat.succ_le_succ (depthOfItems_le_iff.2 ?_)
      intro item hitem
      rw [canonicalItems_eq_map] at hitem
      rcases List.mem_map.1 hitem with ⟨source, hsource, rfl⟩
      exact (ih source hsource).trans (depthOfItems_le_iff.1 (Nat.le_refl _) source hsource)
  | object members ih =>
      -- Two members of one key become one, so that the depth may fall.
      refine Nat.succ_le_succ (depthOfMembers_le_iff.2 ?_)
      intro entry hentry
      rcases exists_of_mem_canonical hentry with ⟨source, hsource, rfl⟩
      exact (ih source hsource).trans (depthOfMembers_le_iff.1 (Nat.le_refl _) source hsource)

/-! ## Parts -/

/-- Whether a value stands in another one, at whatever depth, or is that value. -/
inductive PartOf (part : Json) : Json → Prop where
  | whole : PartOf part part
  | item {item : Json} {items : List Json} (h : item ∈ items) (hpart : PartOf part item) :
      PartOf part (.array items)
  | member {entry : String × Json} {members : List (String × Json)} (h : entry ∈ members)
      (hpart : PartOf part entry.2) : PartOf part (.object members)

theorem PartOf.depth_le {part value : Json} (h : part.PartOf value) :
    part.depth ≤ value.depth := by
  induction h with
  | whole => exact Nat.le_refl _
  | item hitem _ ih =>
      have hle := depthOfItems_le_iff.1 (Nat.le_refl _) _ hitem
      exact (ih.trans hle).trans (Nat.le_succ _)
  | member hentry _ ih =>
      have hle := depthOfMembers_le_iff.1 (Nat.le_refl _) _ hentry
      exact (ih.trans hle).trans (Nat.le_succ _)

/-! ## Values that were read -/

section Readers

variable {item? : List Char → Option (Json × List Char)} {d : Nat}

/-- Whether a reader gives no value that is nested deeper than `d`. -/
def Bounded (d : Nat) (item? : List Char → Option (Json × List Char)) : Prop :=
  ∀ cs value rest, item? cs = some (value, rest) → value.depth ≤ d

theorem Literal.depth_of_value? {l : Literal} {value : Json} (h : l.value? = some value) :
    value.depth = 0 := by
  have hfloat : ∀ x? : Option Binary64, x?.map Json.float = some value → value.depth = 0 := by
    intro x? hx
    rcases Option.map_eq_some_iff.1 hx with ⟨x, -, rfl⟩
    rfl
  unfold Literal.value? at h
  dsimp only at h
  -- Negative zero is a float; other integers are so only if no word of 64 bits holds them.
  split at h
  · split at h
    · cases h
      rfl
    · split at h
      · cases h
        rfl
      · split at h
        · cases h
          rfl
        · exact hfloat _ h
  · exact hfloat _ h

theorem bounded_number? (negative : Bool) : Bounded d (number? negative) := by
  intro cs value rest hread
  simp only [number?, Option.bind_eq_bind, Option.bind_eq_some_iff, Option.some.injEq,
    Prod.mk.injEq] at hread
  obtain ⟨_, _, _, _, _, _, value, hvalue, rfl, _⟩ := hread
  simp [Literal.depth_of_value? hvalue]

theorem bounded_scalar? : Bounded d scalar? := by
  intro cs value rest hread
  unfold scalar? at hread
  -- A string, a negative number, the three words, and whatever else there is as a number.
  split at hread
  · rcases Option.map_eq_some_iff.1 hread with ⟨_, -, heq⟩
    cases heq
    exact Nat.zero_le d
  · exact bounded_number? true _ _ _ hread
  · rcases Option.map_eq_some_iff.1 hread with ⟨_, -, heq⟩
    cases heq
    exact Nat.zero_le d
  · rcases Option.map_eq_some_iff.1 hread with ⟨_, -, heq⟩
    cases heq
    exact Nat.zero_le d
  · rcases Option.map_eq_some_iff.1 hread with ⟨_, -, heq⟩
    cases heq
    exact Nat.zero_le d
  · exact bounded_number? false _ _ _ hread

theorem bounded_moreItems? (h : Bounded d item?) (fuel : Nat) {acc : List Json}
    (hacc : ∀ item ∈ acc, item.depth ≤ d) : Bounded (d + 1) (moreItems? item? fuel acc) := by
  -- Items are taken off the text while `acc` grows; what is in `acc` stays bounded.
  induction fuel generalizing acc with
  | zero => intro cs value rest hread; cases hread
  | succ fuel ih =>
      intro cs value rest hread
      unfold moreItems? at hread
      split at hread
      · cases hread
        refine Nat.succ_le_succ (depthOfItems_le_iff.2 ?_)
        simpa using hacc
      · split at hread
        · cases hread
        · rename_i item rest' hitem
          exact ih (List.forall_mem_cons.2 ⟨h _ _ _ hitem, hacc⟩) _ _ _ hread
      · cases hread

theorem bounded_arrayBody? (h : Bounded d item?) : Bounded (d + 1) (arrayBody? item?) := by
  intro cs value rest hread
  unfold arrayBody? at hread
  -- An empty array has depth one, whatever the bound of the items is.
  split at hread
  · cases hread
    exact Nat.le_add_left 1 d
  · split at hread
    · cases hread
    · rename_i item rest' hitem
      have hfirst : ∀ other ∈ [item], other.depth ≤ d := by simpa using h _ _ _ hitem
      exact bounded_moreItems? h _ hfirst _ _ _ hread

theorem depth_of_oneMember? (h : Bounded d item?) {cs rest : List Char} {entry : String × Json}
    (hread : oneMember? item? cs = some (entry, rest)) : entry.2.depth ≤ d := by
  unfold oneMember? at hread
  split at hread
  · split at hread
    · cases hread
    · split at hread
      · split at hread
        · cases hread
        · rename_i value rest' hvalue
          cases hread
          exact h _ _ _ hvalue
      · cases hread
  · cases hread

theorem bounded_moreMembers? (h : Bounded d item?) (fuel : Nat) {acc : List (String × Json)}
    (hacc : ∀ entry ∈ acc, entry.2.depth ≤ d) : Bounded (d + 1) (moreMembers? item? fuel acc) := by
  induction fuel generalizing acc with
  | zero => intro cs value rest hread; cases hread
  | succ fuel ih =>
      intro cs value rest hread
      unfold moreMembers? at hread
      split at hread
      · cases hread
        refine Nat.succ_le_succ (depthOfMembers_le_iff.2 ?_)
        intro entry hentry
        exact hacc entry (List.mem_reverse.1 hentry)
      · split at hread
        · cases hread
        · rename_i entry rest' hentry
          have hall : ∀ other ∈ entry :: acc, other.2.depth ≤ d :=
            List.forall_mem_cons.2 ⟨depth_of_oneMember? h hentry, hacc⟩
          exact ih hall _ _ _ hread
      · cases hread

theorem bounded_objectBody? (h : Bounded d item?) : Bounded (d + 1) (objectBody? item?) := by
  intro cs value rest hread
  unfold objectBody? at hread
  split at hread
  · cases hread
    exact Nat.le_add_left 1 d
  · split at hread
    · cases hread
    · rename_i entry rest' hentry
      have hfirst : ∀ other ∈ [entry], other.2.depth ≤ d := by
        simpa using depth_of_oneMember? h hentry
      exact bounded_moreMembers? h _ hfirst _ _ _ hread

/-- The reader goes no deeper than it is told to. -/
theorem bounded_value? (d : Nat) : Bounded d (value? d) := by
  induction d with
  | zero =>
      intro cs value rest hread
      -- With no depth left, the reader refuses brackets of both kinds.
      unfold value? at hread
      split at hread
      · cases hread
      · cases hread
      · exact bounded_scalar? _ _ _ hread
  | succ d ih =>
      intro cs value rest hread
      unfold value? at hread
      split at hread
      · exact bounded_arrayBody? ih _ _ _ hread
      · exact bounded_objectBody? ih _ _ _ hread
      · exact bounded_scalar? _ _ _ hread

end Readers

theorem depth_of_read? {text : String} {value : Json} (h : read? text = some value) :
    value.depth ≤ maxDepth := by
  unfold read? at h
  split at h
  · cases h
  · rename_i found rest hfound
    split at h
    · cases h
      exact bounded_value? maxDepth _ _ _ hfound
    · cases h

theorem depth_of_parse? {text : String} {value : Json} (h : parse? text = some value) :
    value.depth ≤ maxDepth := by
  rcases Option.map_eq_some_iff.1 h with ⟨raw, hraw, rfl⟩
  exact (depth_canonical_le raw).trans (depth_of_read? hraw)

end Json
end WebClient
