import Conform.Proofs.Markers
import Conform.Validation.Walk

/-!
# Marking and searching

The type that a member is marked by need not be the type that governs the path of the member.
Marking goes on from the one candidate that a map fits, but the search for the type of a path knows
no value and goes through all candidates in order. For the items of a list the two still agree, as
only arrays have types for an index. For the value of a key they can differ in one way: an array
that stands in front of the object takes a key that looks like an index for one, and its items are
found before the field.

Where no array stands in front of an object with such a name (`TypeSpec.isOrderly`), the search
leads wherever marking leads (`Course.Leads.atKey`).
-/

namespace Conform

/-- Whether a node is an object with a name that looks like an index. -/
def Node.declaresIndex : Node → Bool
  | .object _ (.mapping fs) => fs.any (fun f => (Value.text f.1).isIndex)
  | _ => false

/-- **Whether no array stands in front of an object that declares an index** among the candidates of
a type. -/
def TypeSpec.isOrderly (t : TypeSpec) : Bool :=
  (t.candidates.dropWhile (fun n => n.kind != .array)).all (fun n => !n.declaresIndex)

namespace Node

variable {n : Node} {key : Value} {u : TypeSpec}

theorem typesAt_of_leaf (hobject : n.kind ≠ .object) (harray : n.kind ≠ .array) (key : Value) :
    n.typesAt key = [] := by
  cases n with
  | object => exact absurd rfl hobject
  | array => exact absurd rfl harray
  | _ => rfl

/-- An object has no type for an index. -/
theorem typesAt_int_of_ne_array (h : n.kind ≠ .array) (i : Int) : n.typesAt (.int i) = [] := by
  cases n with
  | array => exact absurd rfl h
  | object p s =>
    refine List.filterMap_eq_nil_iff.mpr (fun fs _ => ?_)
    cases ht : fs.typeAt? (.int i) with
    | none => rfl
    | some t =>
      obtain ⟨_, _, hkey⟩ := Fields.exists_of_typeAt? ht
      cases hkey
  | _ => rfl

/-- **The first type for a key** is that of the one object, where no array in front of it takes the
key for an index. -/
theorem exists_typesAt_of_object {ns : List Node}
    (hone : ns.filter (fun n => n.kind == .object) = [n])
    (horderly : (ns.dropWhile (fun n => n.kind != .array)).all (fun n => !n.declaresIndex) = true)
    (hindex : key.isIndex = true → n.declaresIndex = true) (hu : n.typesAt key = [u]) :
    ∃ us, ns.flatMap (fun n => n.typesAt key) = u :: us := by
  induction ns with
  | nil => cases hone
  | cons m ns ih =>
    rw [List.flatMap_cons]
    by_cases hobject : m.kind = .object
    · rw [List.filter_cons_of_pos (by simpa using hobject)] at hone
      obtain rfl := (List.cons.inj hone).1
      exact ⟨_, by rw [hu]; rfl⟩
    rw [List.filter_cons_of_neg (by simpa using hobject)] at hone
    by_cases harray : m.kind = .array
    · rw [List.dropWhile_cons_of_neg (by simpa using harray)] at horderly
      have hall := List.all_eq_true.mp horderly
      have hmem : n ∈ ns :=
        (List.mem_filter.mp (show n ∈ ns.filter (fun n => n.kind == .object) by simp [hone])).1
      -- the array declares nothing for the key, for the key is no index
      have hkey : key.isIndex = false := by
        rw [Bool.eq_false_iff]
        intro hkey
        have hn := hall n (List.mem_cons_of_mem _ hmem)
        rw [hindex hkey] at hn
        cases hn
      have hm : m.typesAt key = [] := by
        cases m with
        | array => rw [typesAt, hkey]; rfl
        | _ => cases harray
      rw [hm]
      refine ih hone (List.all_eq_true.mpr (fun k hk => hall k (List.mem_cons_of_mem _ ?_)))
      exact (List.dropWhile_suffix _).subset hk
    · rw [List.dropWhile_cons_of_pos (by simpa using harray)] at horderly
      rw [typesAt_of_leaf hobject harray]
      exact ih hone horderly

/-- **The first type for an index** is that of the items of the one array. -/
theorem exists_typesAt_of_array {ns : List Node} {p : Presence (List Value)} {count : ItemCount}
    (hone : ns.filter (fun n => n.kind == .array) = [.array p u count]) (i : Nat) :
    ∃ us, ns.flatMap (fun n => n.typesAt (.int i)) = u :: us := by
  induction ns with
  | nil => cases hone
  | cons m ns ih =>
    rw [List.flatMap_cons]
    by_cases harray : m.kind = .array
    · rw [List.filter_cons_of_pos (by simpa using harray)] at hone
      obtain rfl := (List.cons.inj hone).1
      rw [typesAt, if_pos (by simp [Value.isIndex])]
      exact ⟨_, rfl⟩
    · rw [List.filter_cons_of_neg (by simpa using harray)] at hone
      rw [typesAt_int_of_ne_array harray]
      exact ih hone

end Node

namespace Course

variable {c : Course} {path : Path}

/-- **A marker that the search leads to as well**: it is the type that governs the path. -/
def Leads (c : Course) (path : Path) (m : Marker) : Prop :=
  ∀ t, m = some t → c.schema.locate path = some t

section Leads

variable {m : Marker} (horderly : c.schema.everyType TypeSpec.isOrderly = true)

include horderly

/-- The search keeps up with marking from key to key. -/
theorem Leads.atKey (h : c.Leads path m) (key : Value) : c.Leads (path ++ [key]) (m.atKey key) := by
  intro u hu
  obtain ⟨fs, hfs, htype⟩ := Option.bind_eq_some_iff.mp hu
  obtain ⟨t, rfl, hfields⟩ := Marker.exists_of_fields? hfs
  obtain ⟨p, hmem, hobjects⟩ := TypeSpec.exists_of_seedFields? hfields
  obtain ⟨name, hname, rfl⟩ := Fields.exists_of_typeAt? htype
  have ht := TypeSpec.self_of_everyType (Schema.everyType_of_locate horderly (h t rfl))
  obtain ⟨us, hus⟩ := Node.exists_typesAt_of_object hobjects ht
    (fun hindex => List.any_eq_true.mpr ⟨_, hname, hindex⟩)
    (show (Schema.mapping fs).typesAt (.text name) = [u] by rw [Schema.typesAt_mapping, htype]; rfl)
  exact Schema.locate_concat (h t rfl) hus

omit horderly in
theorem Leads.ofItems (h : c.Leads path m) (i : Nat) : c.Leads (path ++ [.int i]) m.ofItems := by
  intro u hu
  obtain ⟨t, rfl, hitems⟩ := Option.bind_eq_some_iff.mp hu
  obtain ⟨p, count, hmem, harrays⟩ := TypeSpec.exists_of_seedItems? hitems
  obtain ⟨us, hus⟩ := Node.exists_typesAt_of_array harrays i
  exact Schema.locate_concat (h t rfl) hus

end Leads

end Course

end Conform