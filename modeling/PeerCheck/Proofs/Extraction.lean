import PeerCheck.Cert.Certificate
import PeerCheck.Proofs.Cert.Attribute
import PeerCheck.Proofs.Cert.WrittenName
import PeerCheck.Proofs.Host.Match
import PeerCheck.Proofs.Run

/-!
# Two ways to a common name

The common name of a certificate is cut out of its written subject; the name itself has it as an
attribute. Where no text that is written before the first common name has the key in it, the cut
begins at that attribute. It gives the attribute's text if nothing of it is escaped and nothing
follows it in its set, and what it gives otherwise shows a backslash or a plus sign, so that no
plain host is taken for it (`extractions_agree`).
-/

namespace PeerCheck.Cert

open PeerCheck.Text PeerCheck.Host

/-! ## The first common name -/

namespace Name

variable {n : Name} {a : Attribute} {r : List Attribute}

def writtenBefore (n : Name) : List Attribute :=
  n.reverse.flatten.takeWhile (·.oid != ObjectId.commonName)

/-- The attribute is the first common name in the order of writing, and `r` follows it in its
set. -/
def FirstCommonName (n : Name) (a : Attribute) (r : List Attribute) : Prop :=
  ∃ later b earlier, n = later ++ (b ++ a :: r) :: earlier ∧ a.oid = ObjectId.commonName ∧
    (∀ x ∈ b, x.oid ≠ ObjectId.commonName) ∧
    ∀ x ∈ earlier.flatten, x.oid ≠ ObjectId.commonName

theorem mem_flatten_reverse {x : Attribute} : x ∈ n.reverse.flatten ↔ x ∈ n.flatten := by
  simp

theorem exists_first_of_mem {set : List Attribute}
    (h : ∃ x ∈ set, x.oid = ObjectId.commonName) :
    ∃ b a r, set = b ++ a :: r ∧ a.oid = ObjectId.commonName ∧
      ∀ x ∈ b, x.oid ≠ ObjectId.commonName := by
  obtain ⟨x, hx, hoid⟩ := h
  have hsome : (set.find? (·.oid == ObjectId.commonName)).isSome :=
    List.find?_isSome.2 ⟨x, hx, beq_iff_eq.2 hoid⟩
  obtain ⟨a, hfind⟩ := Option.isSome_iff_exists.1 hsome
  obtain ⟨ha, b, r, rfl, hb⟩ := List.find?_eq_some_iff_append.1 hfind
  exact ⟨b, a, r, rfl, beq_iff_eq.1 ha, fun y hy => by simpa using hb y hy⟩

/-- The last set with a common name is the first that is written. -/
theorem exists_firstCommonName (h : ∃ x ∈ n.flatten, x.oid = ObjectId.commonName) :
    ∃ a r, n.FirstCommonName a r := by
  induction n with
  | nil => simp at h
  | cons set n ih =>
    by_cases hlater : ∃ x ∈ n.flatten, x.oid = ObjectId.commonName
    · obtain ⟨a, r, later, b, earlier, rfl, hfirst⟩ := ih hlater
      exact ⟨a, r, set :: later, b, earlier, rfl, hfirst⟩
    · obtain ⟨x, hx, hoid⟩ := h
      rw [List.flatten_cons, List.mem_append] at hx
      have hset : x ∈ set := hx.resolve_right fun hx => hlater ⟨x, hx, hoid⟩
      obtain ⟨b, a, r, rfl, ha, hb⟩ := exists_first_of_mem ⟨x, hset, hoid⟩
      exact ⟨a, r, [], b, n, rfl, ha, hb, fun y hy hoid => hlater ⟨y, hy, hoid⟩⟩

theorem writtenBefore_eq {later earlier : Name} {b : List Attribute}
    (ha : a.oid = ObjectId.commonName) (hb : ∀ x ∈ b, x.oid ≠ ObjectId.commonName)
    (hearlier : ∀ x ∈ earlier.flatten, x.oid ≠ ObjectId.commonName) :
    writtenBefore (later ++ (b ++ a :: r) :: earlier) = earlier.reverse.flatten ++ b := by
  have hall : ∀ x ∈ earlier.reverse.flatten ++ b, (x.oid != ObjectId.commonName) = true := by
    intro x hx
    rw [bne_iff_ne]
    obtain hx | hx := List.mem_append.1 hx
    · exact hearlier x (mem_flatten_reverse.1 hx)
    · exact hb x hx
  have hflat : (later ++ (b ++ a :: r) :: earlier).reverse.flatten =
      (earlier.reverse.flatten ++ b) ++ a :: (r ++ later.reverse.flatten) := by
    simp
  rw [writtenBefore, hflat, List.takeWhile_append_of_pos hall, List.takeWhile_cons_of_neg]
  · exact List.append_nil _
  · simp [ha]

end Name

/-! ## What attributes bear -/

theorem borne?_of_commonName {a : Attribute} {t : NamedText} (ht : a.named = .ok t)
    (ha : a.oid = ObjectId.commonName) :
    ∃ v, a.text = .ok (.text v) ∧ t.borne? = some (escapeText v) := by
  obtain ⟨hoid, htext⟩ := Attribute.text_of_named ht
  cases hv : t.text with
  | text v =>
    rw [hv] at htext
    exact ⟨v, htext, by rw [NamedText.borne?, if_pos (hoid.trans ha), hv]; rfl⟩
  | octets bytes =>
    rw [hv] at htext
    exact absurd (ha.symm.trans (Attribute.oid_of_octets htext)) (by decide)

theorem borne?_eq_none {a : Attribute} {t : NamedText} (ht : a.named = .ok t)
    (ha : a.oid ≠ ObjectId.commonName)
    (hkey : ∀ cs, a.text = .ok (.text cs) → ¬ commonNameKey <:+: cs) : t.borne? = none := by
  obtain ⟨hoid, htext⟩ := Attribute.text_of_named ht
  rw [NamedText.borne?, if_neg (hoid ▸ ha)]
  cases hv : t.text with
  | text cs =>
    rw [hv] at htext
    simp only [after?_eq_none_iff.2 (hkey cs htext), Option.map_none]
  | octets bytes => rfl

theorem forall_borne?_eq_none {l : List Attribute} {ts : List NamedText}
    (h : List.Forall₂ (fun a t => a.named = .ok t) l ts)
    (hall : ∀ x ∈ l, x.oid ≠ ObjectId.commonName ∧
      ∀ cs, x.text = .ok (.text cs) → ¬ commonNameKey <:+: cs) : ∀ t ∈ ts, t.borne? = none := by
  induction h with
  | nil => simp
  | cons ht _ ih =>
    obtain ⟨hx, hl⟩ := List.forall_mem_cons.1 hall
    exact List.forall_mem_cons.2 ⟨borne?_eq_none ht hx.1 hx.2, ih hl⟩

/-! ## The cut -/

/-- What is cut out for an attribute of type common name with the text `v`. -/
def cutOf (v : List Char) (r : List NamedText) : List Char :=
  (escapeText v ++ restOfSet r).takeWhile (· != ',')

theorem cutOf_nil {v : List Char} (hv : IsUnescaped v) : cutOf v [] = v := by
  rw [cutOf, escapeText_of_isUnescaped hv, restOfSet, if_pos rfl, List.append_nil,
    List.takeWhile_eq_self_iff]
  intro c hc
  rw [bne_iff_ne]
  rintro rfl
  exact hv.not_comma hc

/-- A cut text shows its escapes, and the rest of its set begins with a plus sign. -/
theorem mem_cutOf {v : List Char} {r : List NamedText} (h : ¬ (IsUnescaped v ∧ r = [])) :
    '\\' ∈ cutOf v r ∨ '+' ∈ cutOf v r := by
  by_cases hback : '\\' ∈ cutOf v r
  · exact .inl hback
  -- without a backslash the cut keeps the whole text, and the plus sign behind it
  · obtain ⟨hb, hcut⟩ := (guarded_escapeText v).takeWhile_append hback
    have hr : r ≠ [] := fun hr => h ⟨isUnescaped_of_not_mem_escapeText hb, hr⟩
    rw [cutOf, hcut, restOfSet, if_neg hr]
    exact .inr (List.mem_append_right _ List.mem_cons_self)

/-- The common name in a written name begins with the first common name of the name. -/
theorem exists_cutOf {n : Name} {a : Attribute} {r : List Attribute}
    {texts : List (List NamedText)} (ht : Name.texts n = .ok texts) (hfirst : n.FirstCommonName a r)
    (hbefore : ∀ x ∈ n.writtenBefore, ∀ cs, x.text = .ok (.text cs) → ¬ commonNameKey <:+: cs) :
    ∃ v rest, a.text = .ok (.text v) ∧ (rest = [] ↔ r = []) ∧
      commonNameOf? (writtenName texts) = some (cutOf v rest) := by
  obtain ⟨later, b, earlier, rfl, ha, hb, hearlier⟩ := hfirst
  rw [Name.writtenBefore_eq ha hb hearlier] at hbefore
  obtain ⟨later', ts, rfl, -, hts⟩ := exists_append_of_forall₂ (forall₂_of_mapM ht)
  obtain ⟨set', earlier', hset, hearlier', rfl⟩ := List.forall₂_cons_left_iff.1 hts
  obtain ⟨b', ar, rfl, hb', har⟩ := exists_append_of_forall₂ (Name.forall₂_setTexts hset)
  obtain ⟨t, r', hta, hr', rfl⟩ := List.forall₂_cons_left_iff.1 har
  obtain ⟨v, hv, hborne⟩ := borne?_of_commonName hta ha
  -- what remains is that nothing written before `t` bears a common name
  refine ⟨v, r', hv, ?_, commonNameOf?_of_first ?_ ?_ hborne⟩
  · rw [← List.length_eq_zero_iff, ← List.length_eq_zero_iff, hr'.length_eq]
  · refine forall_borne?_eq_none (Name.forall₂_flatten hearlier') fun x hx => ⟨hearlier x hx, ?_⟩
    exact hbefore x (List.mem_append_left _ (Name.mem_flatten_reverse.2 hx))
  · exact forall_borne?_eq_none hb' fun x hx => ⟨hb x hx, hbefore x (List.mem_append_right _ hx)⟩

theorem commonName_of_render {c : Certificate} {subject : String}
    (hr : c.subject.render = .ok subject) : c.commonName = .ok (commonName? subject) := by
  rw [Certificate.commonName, hr]
  rfl

/-! ## The name itself -/

theorem Name.FirstCommonName.mem {n : Name} {a : Attribute} {r : List Attribute}
    (h : n.FirstCommonName a r) : a ∈ n.flatten ∧ a.oid = ObjectId.commonName := by
  obtain ⟨later, b, earlier, rfl, ha, -, -⟩ := h
  exact ⟨by simp, ha⟩

theorem find?_of_countP_eq_one {α : Type} {p : α → Bool} {l : List α} {a : α}
    (h : l.countP p = 1) (ha : a ∈ l) (hp : p a = true) : l.find? p = some a := by
  rw [List.countP_eq_length_filter, List.length_eq_one_iff] at h
  obtain ⟨b, hb⟩ := h
  have hmem : a ∈ l.filter p := List.mem_filter.2 ⟨ha, hp⟩
  rw [hb, List.mem_singleton] at hmem
  rw [← List.head?_filter, hb, hmem]
  rfl

/-- The only common name of a name is the one that is taken out of it. -/
theorem structured_of_countP_eq_one {n : Name} {texts : List (List NamedText)} {a : Attribute}
    {v : List Char} (ht : Name.texts n = .ok texts)
    (hone : n.flatten.countP (·.oid == ObjectId.commonName) = 1)
    (ha : a ∈ n.flatten ∧ a.oid = ObjectId.commonName) (hv : a.text = .ok (.text v)) :
    (Subject.name n).structured = .ok (some (String.ofList v)) := by
  have hfind := find?_of_countP_eq_one hone ha.1 (beq_iff_eq.2 ha.2)
  obtain ⟨t, hta, hfind⟩ := find?_texts_of_find? (Name.forall₂_flatten (forall₂_of_mapM ht)) hfind
  have htext : t.text = .text v := by
    have h := (Attribute.text_of_named hta).2
    rw [hv] at h
    exact (Except.ok.inj h).symm
  rw [Subject.structured, ht, Except.map, Subject.structuredCommonName?, hfind, Option.map_some,
    htext]
  rfl

/-! ## Agreement -/

/-- Let no text that is written before the first common name have the key in it. Then the common
name taken out of the written subject is the text of that attribute, if nothing of the text is
escaped and nothing follows the attribute in its set; if besides there is no other common name, it
is also what is taken out of the name itself. Otherwise what is taken out of the written subject has
a backslash or a plus sign in it, and neither equals nor matches a host that has none. -/
theorem extractions_agree {c : Certificate} {n : Name} {subject : String}
    (hn : c.subject = .name n) (hr : c.subject.render = .ok subject)
    (hcn : ∃ x ∈ n.flatten, x.oid = ObjectId.commonName)
    (hbefore : ∀ x ∈ n.writtenBefore, ∀ cs, x.text = .ok (.text cs) → ¬ commonNameKey <:+: cs) :
    ∃ a r v cn, n.FirstCommonName a r ∧ a.text = .ok (.text v) ∧ c.commonName = .ok (some cn) ∧
      (IsUnescaped v ∧ r = [] → cn = String.ofList v ∧
        (n.flatten.countP (·.oid == ObjectId.commonName) = 1 →
          c.subject.structured = .ok (some cn))) ∧
      (¬ (IsUnescaped v ∧ r = []) → ('\\' ∈ cn.toList ∨ '+' ∈ cn.toList) ∧
        ∀ host : String, '\\' ∉ host.toList → '+' ∉ host.toList →
          cn ≠ host ∧ agrees host cn = false) := by
  obtain ⟨a, r, hfirst⟩ := Name.exists_firstCommonName hcn
  have hname := commonName_of_render hr
  rw [hn] at hr
  obtain ⟨texts, ht, rfl⟩ := exists_of_map_eq_ok hr
  obtain ⟨v, rest, hv, hrest, hcut⟩ := exists_cutOf ht hfirst hbefore
  rw [commonName?, String.toList_ofList, hcut, Option.map_some] at hname
  refine ⟨a, r, v, String.ofList (cutOf v rest), hfirst, hv, hname, ?_, ?_⟩
  · rintro ⟨hplain, hlast⟩
    rw [hrest.2 hlast, cutOf_nil hplain, hn]
    exact ⟨rfl, fun hone => structured_of_countP_eq_one ht hone hfirst.mem hv⟩
  · intro hmarked
    rw [← hrest] at hmarked
    have hmem := mem_cutOf hmarked
    rw [← String.toList_ofList (l := cutOf v rest)] at hmem
    refine ⟨hmem, fun host hback hplus => ⟨?_, ?_⟩⟩
    · rintro rfl
      exact hmem.elim hback hplus
    · rw [Bool.eq_false_iff]
      intro hagrees
      obtain hm | hm := hmem
      · exact hback (mem_of_agrees (by decide) (by decide) hagrees hm)
      · exact hplus (mem_of_agrees (by decide) (by decide) hagrees hm)

/-- The name `UID=u+CN=a.org,O=ACN=x.org`: the key also in a text that is written later. -/
def laterKeyName : Name :=
  [[⟨[2, 5, 4, 10], 0x0C, [65, 67, 78, 61, 120, 46, 111, 114, 103]⟩],
    [⟨[0, 9, 2342, 19200300, 100, 1, 1], 0x0C, [117]⟩,
      ⟨ObjectId.commonName, 0x0C, [97, 46, 111, 114, 103]⟩]]

/-- The name `CN=a.org+O=x`: an attribute follows the common name in its set. -/
def followedName : Name :=
  [[⟨ObjectId.commonName, 0x0C, [97, 46, 111, 114, 103]⟩, ⟨[2, 5, 4, 10], 0x0C, [120]⟩]]

/-- Both readings of `laterKeyName` give the one common name; of `followedName` the written subject
gives a name that the host `a.org` does not match. -/
theorem extractions_agree_or_marked :
    (Certificate.commonName ⟨[], .name laterKeyName⟩ = .ok (some "a.org") ∧
      (Subject.name laterKeyName).structured = .ok (some "a.org")) ∧
    ∃ cn, Certificate.commonName ⟨[], .name followedName⟩ = .ok (some cn) ∧
      agrees "a.org" cn = false := by
  constructor
  · have hr : (Subject.name laterKeyName).render = .ok "UID=u+CN=a.org,O=ACN=x.org" := by cbv
    have htext : ∀ x ∈ laterKeyName.writtenBefore, x.text = .ok (.text ['u']) := by decide +kernel
    have hbefore : ∀ x ∈ laterKeyName.writtenBefore, ∀ cs, x.text = .ok (.text cs) →
        ¬ commonNameKey <:+: cs := by
      intro x hx cs hcs
      rw [htext x hx] at hcs
      cases hcs
      decide
    obtain ⟨a, r, v, cn, -, -, hname, hplain, hmarked⟩ := extractions_agree
      (c := ⟨[], .name laterKeyName⟩) rfl hr (by decide) hbefore
    have hcn : Certificate.commonName ⟨[], .name laterKeyName⟩ = .ok (some "a.org") :=
      (commonName_of_render hr).trans (congrArg _ (by decide +kernel))
    obtain rfl : cn = "a.org" := by
      rw [hname] at hcn
      cases hcn
      rfl
    have hunmarked : IsUnescaped v ∧ r = [] := by
      by_contra h
      exact absurd (hmarked h).1 (by decide)
    exact ⟨hcn, (hplain hunmarked).2 (by decide)⟩
  · have hr : (Subject.name followedName).render = .ok "CN=a.org+O=x" := by cbv
    have hnone : followedName.writtenBefore = [] := by decide
    obtain ⟨a, r, v, cn, -, -, hname, hplain, hmarked⟩ := extractions_agree
      (c := ⟨[], .name followedName⟩) rfl hr (by decide) (by simp [hnone])
    have hcn : Certificate.commonName ⟨[], .name followedName⟩ = .ok (some "a.org+O=x") :=
      (commonName_of_render hr).trans (congrArg _ (by decide +kernel))
    obtain rfl : cn = "a.org+O=x" := by
      rw [hname] at hcn
      cases hcn
      rfl
    have hescaped : ¬ (IsUnescaped v ∧ r = []) := by
      intro h
      have hv : "a.org+O=x".toList = v := by rw [(hplain h).1, String.toList_ofList]
      exact absurd (h.1.1 '+' (hv ▸ by decide)).1 (by decide)
    exact ⟨_, hname, (hmarked hescaped).2 "a.org" (by decide) (by decide) |>.2⟩

end PeerCheck.Cert
