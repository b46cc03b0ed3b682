import PeerCheck.Cert.CommonName
import PeerCheck.Proofs.Text.Search

/-!
# Where the common name stands in a subject

A subject with a key of the common name is in just one way a text without the key, the key, a name
without a comma, and a rest that begins with a comma if there is any. The common name is that name
(`common_name_follows_first_key`).
-/

namespace PeerCheck.Cert

open PeerCheck.Text

def HasKey (s : String) : Prop := ∃ front back, s = front ++ "CN=" ++ back

/-- The subject is `before`, the key, `name` and `rest`. The key is the first one, and the name ends
at the next comma, or where the subject ends. -/
structure Dissects (subject before name rest : String) : Prop where
  parts : subject = before ++ "CN=" ++ name ++ rest
  first : ¬ HasKey before
  unbroken : ',' ∉ name.toList
  ended : rest = "" ∨ ∃ more, rest = "," ++ more

theorem hasKey_iff {s : String} : HasKey s ↔ commonNameKey <:+: s.toList := by
  constructor
  · rintro ⟨front, back, rfl⟩
    rw [String.toList_append, String.toList_append]
    exact ⟨front.toList, back.toList, rfl⟩
  · rintro ⟨front, back, h⟩
    refine ⟨String.ofList front, String.ofList back, String.toList_inj.1 ?_⟩
    simp only [String.toList_append, String.toList_ofList, ← h]
    rfl

variable {subject before name rest before' name' rest' : String}

/-- The rest of a subject, as its characters. -/
theorem ended_iff : (rest = "" ∨ ∃ more, rest = "," ++ more) ↔
    rest.toList = [] ∨ ∃ more, rest.toList = ',' :: more := by
  refine or_congr String.toList_eq_nil_iff.symm ⟨?_, ?_⟩
  · rintro ⟨more, rfl⟩
    exact ⟨more.toList, String.toList_append⟩
  · rintro ⟨more, h⟩
    refine ⟨String.ofList more, String.toList_inj.1 ?_⟩
    simp only [h, String.toList_append, String.toList_ofList]
    rfl

/-- A subject is taken apart where a search for the key cuts it, and what follows at its comma. -/
theorem dissects_iff : Dissects subject before name rest ↔
    cutAt? commonNameKey subject.toList = some (before.toList, name.toList ++ rest.toList) ∧
      ',' ∉ name.toList ∧ (rest.toList = [] ∨ ∃ more, rest.toList = ',' :: more) := by
  have hparts : subject = before ++ "CN=" ++ name ++ rest ↔
      subject.toList = before.toList ++ commonNameKey ++ (name.toList ++ rest.toList) := by
    rw [← String.toList_inj]
    simp only [String.toList_append, List.append_assoc]
    rfl
  rw [cutAt?_eq_some_iff (by decide) (by decide), ← hparts, ← hasKey_iff, ← ended_iff]
  exact ⟨fun h => ⟨⟨h.parts, h.first⟩, h.unbroken, h.ended⟩,
    fun ⟨⟨hparts, hfirst⟩, hname, hrest⟩ => ⟨hparts, hfirst, hname, hrest⟩⟩

theorem commonName?_eq_none_iff :
    commonName? subject = none ↔ ¬ commonNameKey <:+: subject.toList := by
  rw [commonName?, commonNameOf?, Option.map_eq_none_iff, Option.map_eq_none_iff,
    cutAt?_eq_none_iff]

theorem commonName?_eq_some_iff :
    commonName? subject = some name ↔ ∃ before rest, Dissects subject before name rest := by
  simp only [commonName?, commonNameOf?, Option.map_eq_some_iff, Prod.exists, dissects_iff]
  constructor
  · rintro ⟨cs, ⟨before, after, hcut, hname⟩, rfl⟩
    obtain ⟨rest, rfl, hcomma, hrest⟩ := takeWhile_ne_eq_iff.1 hname
    refine ⟨String.ofList before, String.ofList rest, ?_⟩
    simp only [String.toList_ofList]
    exact ⟨hcut, hcomma, hrest⟩
  · rintro ⟨before, rest, hcut, hcomma, hrest⟩
    exact ⟨name.toList, ⟨_, _, hcut, takeWhile_ne_eq_iff.2 ⟨_, rfl, hcomma, hrest⟩⟩,
      String.ofList_toList⟩

theorem Dissects.unique (h : Dissects subject before name rest)
    (h' : Dissects subject before' name' rest') :
    before' = before ∧ name' = name ∧ rest' = rest := by
  obtain ⟨hcut, hcomma, hrest⟩ := dissects_iff.1 h
  obtain ⟨hcut', hcomma', hrest'⟩ := dissects_iff.1 h'
  obtain ⟨hbefore, hafter⟩ := Prod.mk.inj (Option.some.inj (hcut'.symm.trans hcut))
  -- both names are what stands before the first comma of the same text
  have hname : name'.toList = name.toList :=
    (takeWhile_ne_eq_iff.2 ⟨_, hafter.symm, hcomma', hrest'⟩).symm.trans
      (takeWhile_ne_eq_iff.2 ⟨_, rfl, hcomma, hrest⟩)
  rw [hname] at hafter
  exact ⟨String.toList_inj.1 hbefore, String.toList_inj.1 hname,
    String.toList_inj.1 (List.append_cancel_left hafter)⟩

/-- A subject's common name is the name after its first key, if there is a key, and there is just
one way to take the subject apart there. -/
theorem common_name_follows_first_key (subject : String) :
    (∀ name, commonName? subject = some name ↔ ∃ before rest, Dissects subject before name rest) ∧
    (commonName? subject = none ↔ ¬ HasKey subject) ∧
    ∀ before name rest before' name' rest', Dissects subject before name rest →
      Dissects subject before' name' rest' → before' = before ∧ name' = name ∧ rest' = rest :=
  ⟨fun _ => commonName?_eq_some_iff, by rw [commonName?_eq_none_iff, hasKey_iff],
    fun _ _ _ _ _ _ h h' => h.unique h'⟩

/-- A subject with an empty name after the first of two keys. -/
theorem common_name_follows_first_key_empty :
    Dissects "O=x,CN=,CN=a" "O=x," "" ",CN=a" ∧ commonName? "O=x,CN=,CN=a" = some "" ∧
      ∀ before name rest, Dissects "O=x,CN=,CN=a" before name rest →
        before = "O=x," ∧ name = "" ∧ rest = ",CN=a" := by
  obtain ⟨hsome, -, hunique⟩ := common_name_follows_first_key "O=x,CN=,CN=a"
  have h : Dissects "O=x,CN=,CN=a" "O=x," "" ",CN=a" :=
    ⟨by decide, by rw [hasKey_iff]; decide, by decide, .inr ⟨"CN=a", by decide⟩⟩
  exact ⟨h, (hsome "").2 ⟨_, _, h⟩, fun before name rest => hunique _ _ _ before name rest h⟩

end PeerCheck.Cert
