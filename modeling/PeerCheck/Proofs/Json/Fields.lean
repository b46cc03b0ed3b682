import PeerCheck.Json.Value

/-!
# Texts as values, and fields of an object

What a name says in a list of fields after one of them was set, and in a list that gives each of
some names its value.
-/

namespace PeerCheck.Json

namespace Value

open PeerCheck.Text

theorem ofText_inj {t t' : Spelling} : ofText t = ofText t' ↔ t = t' := by
  cases t <;> cases t' <;> simp [ofText]

theorem isSet_ofText_iff (t : Spelling) : (ofText t).isSet = true ↔ t ≠ .sound "" := by
  cases t <;> simp [ofText, isSet]

end Value

namespace Fields

variable {fields table : Fields} {name key : String} {f g : String → Value}

@[simp] theorem get?_nil (name : String) : get? [] name = none := rfl

theorem get?_cons (p : String × Value) (fields : Fields) (name : String) :
    get? (p :: fields) name = if name = p.1 then some p.2 else get? fields name := by
  obtain ⟨n, w⟩ := p
  rw [get?, List.lookup_cons, get?]
  cases hn : name == n with
  | true => rw [if_pos (beq_iff_eq.mp hn)]
  | false => rw [if_neg (beq_eq_false_iff_ne.mp hn)]

/-- Only the field that is set changes. -/
theorem get?_put (fields : Fields) (key : String) (v : Value) (name : String) :
    (fields.put key v).get? name = if name = key then some v else fields.get? name := by
  induction fields with
  | nil => simp [put, get?_cons]
  | cons p fields ih =>
    unfold put
    split
    · next hp =>
      subst hp
      simp only [get?_cons]
      split <;> rfl
    · next hp =>
      simp only [get?_cons, ih]
      by_cases hn : name = p.1
      · subst hn
        simp [hp]
      · simp [hn]

theorem get?_put_self (fields : Fields) (key : String) (v : Value) :
    (fields.put key v).get? key = some v := by
  rw [get?_put, if_pos rfl]

theorem get?_put_of_ne (h : name ≠ key) (fields : Fields) (v : Value) :
    (fields.put key v).get? name = fields.get? name := by
  rw [get?_put, if_neg h]

/-- The names that say something are those of the fields. -/
theorem isSome_get?_iff : (fields.get? name).isSome ↔ ∃ p ∈ fields, p.1 = name := by
  induction fields with
  | nil => simp
  | cons p fields ih =>
    rw [get?_cons]
    split
    · next hp => simp [hp]
    · next hp => simp [ih, Ne.symm hp]

/-- Where every name is given once, the order of the fields does not matter. -/
theorem get?_perm {other : Fields} (h : other.Perm fields) (hn : (fields.map Prod.fst).Nodup)
    (name : String) : other.get? name = fields.get? name := by
  induction h with
  | nil => rfl
  | cons p _ ih =>
    rw [List.map_cons, List.nodup_cons] at hn
    rw [get?_cons, get?_cons, ih hn.2]
  | swap p q fields =>
    have hne : p.1 ≠ q.1 := by
      rintro heq
      rw [List.map_cons, List.map_cons, heq, List.nodup_cons] at hn
      exact hn.1 List.mem_cons_self
    simp only [get?_cons]
    by_cases hp : name = p.1
    · subst hp
      simp [hne]
    · simp [hp]
  | trans _ hperm ih ih' => rw [ih ((hperm.map Prod.fst).nodup_iff.mpr hn), ih' hn]

/-! ## Tables -/

def tabulate (table : Fields) (f : String → Value) : Fields :=
  table.map fun (name, _) => (name, f name)

theorem tabulate_cons (p : String × Value) (table : Fields) (f : String → Value) :
    tabulate (p :: table) f = (p.1, f p.1) :: tabulate table f := rfl

theorem get?_tabulate (table : Fields) (f : String → Value) (name : String) :
    (tabulate table f).get? name = if (table.get? name).isSome then some (f name) else none := by
  induction table with
  | nil => rfl
  | cons p table ih =>
    rw [tabulate_cons, get?_cons, get?_cons, ih]
    by_cases hp : name = p.1
    · simp [hp]
    · simp [hp]

theorem tabulate_congr (h : ∀ name, (table.get? name).isSome → f name = g name) :
    tabulate table f = tabulate table g :=
  List.map_congr_left fun p hp => by
    simp only
    rw [h p.1 (isSome_get?_iff.mpr ⟨p, hp, rfl⟩)]

/-- Setting a name of a table is giving it another value. -/
theorem put_tabulate (hn : (table.map Prod.fst).Nodup) (hkey : (table.get? key).isSome)
    (f : String → Value) (v : Value) :
    (tabulate table f).put key v = tabulate table fun name => if name = key then v else f name := by
  induction table with
  | nil => cases hkey
  | cons p table ih =>
    rw [List.map_cons, List.nodup_cons] at hn
    rw [get?_cons] at hkey
    rw [tabulate_cons, tabulate_cons, put]
    split
    · next hp =>
      -- no later field has the name that was set
      subst hp
      refine congrArg _ (tabulate_congr fun name hname => ?_)
      obtain ⟨q, hq, rfl⟩ := isSome_get?_iff.mp hname
      rw [if_neg fun heq => hn.1 (List.mem_map.mpr ⟨q, hq, heq⟩)]
    · next hp =>
      rw [if_neg (Ne.symm hp)] at hkey
      rw [ih hn.2 hkey]

end Fields

end PeerCheck.Json
