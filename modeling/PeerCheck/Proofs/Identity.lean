import PeerCheck.Proofs.Cert.Attribute
import PeerCheck.Proofs.Cert.WrittenName
import PeerCheck.Proofs.Host.Match
import PeerCheck.Proofs.Verdict
import Mathlib

/-!
# Who a passing certificate speaks for

A verdict is reached on the written subject, so it can pass for a host that no common name of the
subject agrees with: another attribute may be written before it with the key in its text, and an
escape or the rest of a set may become part of the value (`passed_without_speaksFor`). These are the
only ways, and the last two take a backslash or a plus sign in the host itself
(`speaksFor_or_posesFor_of_passed`).
-/

namespace PeerCheck

open PeerCheck.Cert PeerCheck.Host PeerCheck.Text

namespace Cert.Name

/-- A common name attribute of the name has a text that the host agrees with. -/
def SpeaksFor (n : Name) (host : String) : Prop :=
  ∃ a ∈ n.flatten, a.oid = ObjectId.commonName ∧
    ∃ cs, a.text = .ok (.text cs) ∧ agrees host (String.ofList cs)

/-- An attribute of another type is written before every common name, and the host agrees with what
follows the key in its text. -/
def PosesFor (n : Name) (host : String) : Prop :=
  ∃ before a after, n.reverse.flatten = before ++ a :: after ∧
    (∀ b ∈ before, b.oid ≠ ObjectId.commonName) ∧ a.oid ≠ ObjectId.commonName ∧
    ∃ front cs, a.text = .ok (.text (front ++ commonNameKey ++ cs)) ∧
      agrees host (String.ofList cs)

/-- Some attribute of the name is a common name, or has the key in its text. -/
def Bears (n : Name) : Prop :=
  ∃ a ∈ n.flatten, a.oid = ObjectId.commonName ∨
    ∃ front cs, a.text = .ok (.text (front ++ commonNameKey ++ cs))

end Cert.Name

/-! ## Plain values -/

/-- A value that shows no backslash and no plus sign was written as it is, and ends its set. -/
theorem takeWhile_eq_of_plain {z v : List Char} {r : List NamedText} (hz : Guarded z)
    (hself : '\\' ∉ z → z = v) (hb : '\\' ∉ (z ++ restOfSet r).takeWhile (· != ','))
    (hp : '+' ∉ (z ++ restOfSet r).takeWhile (· != ',')) :
    (z ++ restOfSet r).takeWhile (· != ',') = v := by
  obtain ⟨hbz, heq⟩ := hz.takeWhile_append hb
  rw [heq] at hp ⊢
  rw [← hself hbz]
  cases r with
  | nil => simp [restOfSet]
  | cons a r =>
    refine absurd (List.mem_append_right z ?_) hp
    simp [restOfSet]

/-- Which value an attribute bears, if the value shows no backslash and no plus sign. -/
theorem text_of_borne {a : NamedText} {q cn : List Char} {r : List NamedText}
    (hq : a.borne? = some q) (hcn : cn = (q ++ restOfSet r).takeWhile (· != ','))
    (hb : '\\' ∉ cn) (hp : '+' ∉ cn) {cs : List Char} (ht : a.text = .text cs) :
    (a.oid = ObjectId.commonName ∧ cs = cn) ∨
      (a.oid ≠ ObjectId.commonName ∧ ∃ front, cs = front ++ commonNameKey ++ cn) := by
  rw [NamedText.borne?, ht] at hq
  rw [hcn] at hb hp
  split at hq
  · rename_i hoid
    obtain rfl : escapeText cs = q := by simpa [AttributeText.written] using hq
    rw [takeWhile_eq_of_plain (guarded_escapeText cs) escapeText_eq_self hb hp] at hcn
    exact .inl ⟨hoid, hcn.symm⟩
  · rename_i hoid
    obtain ⟨v, hv, rfl⟩ := Option.map_eq_some_iff.1 hq
    have hguard := guarded_escapeLast (guarded_escapeInside v)
    rw [takeWhile_eq_of_plain hguard escapeLast_escapeInside_eq_self hb hp] at hcn
    rw [hcn]
    exact .inr ⟨hoid, append_of_after? hv⟩

theorem oid_or_key_of_borne {a : NamedText} {q cs : List Char} (hq : a.borne? = some q)
    (ht : a.text = .text cs) :
    a.oid = ObjectId.commonName ∨ ∃ front v, cs = front ++ commonNameKey ++ v := by
  by_cases hoid : a.oid = ObjectId.commonName
  · exact .inl hoid
  · rw [NamedText.borne?, if_neg hoid, ht] at hq
    obtain ⟨v, hv, -⟩ := Option.map_eq_some_iff.1 hq
    obtain ⟨front, rfl⟩ := append_of_after? hv
    exact .inr ⟨front, v, rfl⟩

/-- An attribute that bears nothing is no common name. -/
theorem oid_ne_of_borne?_eq_none {a : NamedText} (h : a.borne? = none) :
    a.oid ≠ ObjectId.commonName := by
  intro hoid
  rw [NamedText.borne?, if_pos hoid] at h
  cases h

theorem oid_ne_of_forall₂ {before : List Attribute} {texts : List NamedText}
    (h : List.Forall₂ (fun a t => a.named = .ok t) before texts)
    (hnone : ∀ t ∈ texts, t.borne? = none) : ∀ a ∈ before, a.oid ≠ ObjectId.commonName := by
  induction h with
  | nil => simp
  | cons hat _ ih =>
    obtain ⟨ht, hts⟩ := List.forall_mem_cons.1 hnone
    refine List.forall_mem_cons.2 ⟨?_, ih hts⟩
    rw [← (Attribute.text_of_named hat).1]
    exact oid_ne_of_borne?_eq_none ht

theorem exists_text_of_borne {x : Attribute} {a : NamedText} {q : List Char}
    (hx : x.named = .ok a) (hq : a.borne? = some q) : ∃ cs, a.text = .text cs := by
  obtain ⟨hoid, htext⟩ := Attribute.text_of_named hx
  cases ht : a.text with
  | text cs => exact ⟨cs, rfl⟩
  | octets bytes =>
    rw [ht] at htext
    have hid := Attribute.oid_of_octets htext
    rw [NamedText.borne?, if_neg (by rw [hoid, hid]; decide), ht] at hq
    cases hq

/-! ## Certificates -/

theorem verifyCertificate_of_render (der : List UInt8) {n : Name} {subject : String}
    (h : (Subject.name n).render = .ok subject) (host : String) :
    verifyCertificate ⟨der, .name n⟩ (some host) =
      .ok (Verdict.ofSubject subject host, Verdict.records subject host) :=
  verifyCertificate_of_written h host

theorem exists_texts_of_passed {der : List UInt8} {n : Name} {host : String} {v : Verdict}
    {records : List Log.Record}
    (h : verifyCertificate ⟨der, .name n⟩ (some host) = .ok (v, records)) (hv : v.passed) :
    ∃ texts cs, Name.texts n = .ok texts ∧ commonNameOf? (writtenName texts) = some cs ∧
      v.commonName = some (String.ofList cs) ∧ agrees host (String.ofList cs) := by
  rw [verifyCertificate_some, Subject.render] at h
  cases ht : Name.texts n with
  | error e => rw [ht] at h; cases h
  | ok texts =>
    rw [ht] at h
    cases h
    obtain ⟨cn, hcn, hagree⟩ := Verdict.passed_ofSubject_iff.1 hv
    have hname : (Verdict.ofSubject (String.ofList (writtenName texts)) host).commonName =
        some cn := by
      rw [Verdict.ofSubject, hcn]
      simp only [hagree, if_true]
      rfl
    rw [commonName?, String.toList_ofList] at hcn
    obtain ⟨cs, hcs, rfl⟩ := Option.map_eq_some_iff.1 hcn
    exact ⟨texts, cs, rfl, hcs, hname, hagree⟩

/-- A certificate passes for a host only if a common name of its subject has a text that the host
agrees with, or if an attribute of another type, written before every common name, has the key in
its text and behind it what the host agrees with, or if some attribute is a common name or has the
key in its text and the host shares a backslash or a plus sign with the value it was compared
with. -/
theorem speaksFor_or_posesFor_of_passed {der : List UInt8} {n : Name} {host : String} {v : Verdict}
    {records : List Log.Record}
    (h : verifyCertificate ⟨der, .name n⟩ (some host) = .ok (v, records)) (hv : v.passed) :
    n.SpeaksFor host ∨ n.PosesFor host ∨ n.Bears ∧
      ∃ cn, v.commonName = some cn ∧ agrees host cn ∧
        ∃ d, (d = '\\' ∨ d = '+') ∧ d ∈ cn.toList ∧ d ∈ host.toList := by
  obtain ⟨texts, cn, htexts, hcn, hname, hagree⟩ := exists_texts_of_passed h hv
  obtain ⟨before, a, r, after, q, hflat, hnone, hq, hcut⟩ := exists_bearer hcn
  have hall := Name.forall₂_texts htexts
  rw [hflat] at hall
  obtain ⟨b, x, rest, hsplit, hbefore, hx⟩ := exists_split_of_forall₂ hall
  have hmem : x ∈ n.flatten := by
    have hrev : x ∈ n.reverse.flatten := by rw [hsplit]; simp
    simpa using hrev
  obtain ⟨cs, ht⟩ := exists_text_of_borne hx hq
  obtain ⟨hoid, htext⟩ := Attribute.text_of_named hx
  rw [ht] at htext
  by_cases hshown : ∃ d, (d = '\\' ∨ d = '+') ∧ d ∈ cn
  · obtain ⟨d, hd, hm⟩ := hshown
    rw [← String.toList_ofList (l := cn)] at hm
    have hplain : IsPlain d ∧ d ≠ '*' := by rcases hd with rfl | rfl <;> decide
    refine .inr (.inr ⟨⟨x, hmem, ?_⟩, _, hname, hagree, d, hd, hm,
      mem_of_agrees hplain.1 hplain.2 hagree hm⟩)
    obtain hown | ⟨front, v, rfl⟩ := oid_or_key_of_borne hq ht
    · exact .inl (hoid ▸ hown)
    · exact .inr ⟨front, v, htext⟩
  rcases text_of_borne hq hcut (fun hm => hshown ⟨_, .inl rfl, hm⟩)
    (fun hm => hshown ⟨_, .inr rfl, hm⟩) ht with ⟨hown, rfl⟩ | ⟨hother, front, rfl⟩
  · exact .inl ⟨x, hmem, hoid ▸ hown, cs, htext, hagree⟩
  · refine .inr (.inl ⟨b, x, rest, hsplit, oid_ne_of_forall₂ hbefore hnone, hoid ▸ hother, ?_⟩)
    exact ⟨front, cn, htext, hagree⟩

/-- The name `CN=*.b.org,O=ACN=x.org`. -/
def wildcardName : Name :=
  [[⟨[2, 5, 4, 10], 0x0C, [65, 67, 78, 61, 120, 46, 111, 114, 103]⟩],
    [⟨ObjectId.commonName, 0x0C, [42, 46, 98, 46, 111, 114, 103]⟩]]

theorem wildcardName_speaksFor_or_posesFor :
    ∃ v records, verifyCertificate ⟨[], .name wildcardName⟩ (some "a.B.org") = .ok (v, records) ∧
      v.passed ∧ (wildcardName.SpeaksFor "a.B.org" ∨ wildcardName.PosesFor "a.B.org" ∨
        wildcardName.Bears ∧ ∃ cn, v.commonName = some cn ∧ agrees "a.B.org" cn ∧
          ∃ d, (d = '\\' ∨ d = '+') ∧ d ∈ cn.toList ∧ d ∈ "a.B.org".toList) := by
  have hr : (Subject.name wildcardName).render = .ok "CN=*.b.org,O=ACN=x.org" := by cbv
  have hv : (Verdict.ofSubject "CN=*.b.org,O=ACN=x.org" "a.B.org").passed := by cbv
  have h := verifyCertificate_of_render [] hr "a.B.org"
  exact ⟨_, _, h, hv, speaksFor_or_posesFor_of_passed h hv⟩

/-! ## Passing without a common name -/

def posingName : Name :=
  [[⟨[2, 5, 4, 10], 0x0C, [67, 78, 61, 101, 118, 105, 108, 46, 99, 111, 109]⟩]]

def commaName : Name := [[⟨ObjectId.commonName, 0x0C, [97, 44, 98]⟩]]

def pairName : Name :=
  [[⟨ObjectId.commonName, 0x0C, [97]⟩, ⟨[2, 5, 4, 10], 0x0C, [98]⟩]]

def posingDer : List UInt8 :=
  [48, 129, 152, 48, 129, 134, 160, 3, 2, 1, 2, 2, 1, 1, 48, 10, 6, 8, 42, 134, 72, 206, 61, 4, 3,
    2, 48, 12, 49, 10, 48, 8, 6, 3, 85, 4, 10, 12, 1, 105, 48, 30, 23, 13, 50, 48, 48, 49, 48, 49,
    48, 48, 48, 48, 48, 48, 90, 23, 13, 51, 48, 48, 49, 48, 49, 48, 48, 48, 48, 48, 48, 90, 48, 22,
    49, 20, 48, 18, 6, 3, 85, 4, 10, 12, 11, 67, 78, 61, 101, 118, 105, 108, 46, 99, 111, 109, 48,
    42, 48, 5, 6, 3, 43, 101, 112, 3, 33] ++ List.replicate 33 0 ++
    [48, 10, 6, 8, 42, 134, 72, 206, 61, 4, 3, 2, 3, 1, 0]

theorem ofDer_posingDer : Certificate.ofDer posingDer = .ok ⟨posingDer, .name posingName⟩ := by cbv

theorem exists_passed {n : Name} {subject host : String}
    (hr : (Subject.name n).render = .ok subject) (hv : (Verdict.ofSubject subject host).passed)
    (der : List UInt8) :
    ∃ v records, verifyCertificate ⟨der, .name n⟩ (some host) = .ok (v, records) ∧ v.passed :=
  ⟨_, _, verifyCertificate_of_render der hr host, hv⟩

/-- A name whose one common name is a text that the host does not agree with. -/
theorem not_speaksFor {n : Name} {x : Attribute} {cs : List Char} {host : String}
    (hn : ∀ a ∈ n.flatten, a.oid = ObjectId.commonName → a = x) (hx : x.text = .ok (.text cs))
    (hhost : agrees host (String.ofList cs) = false) : ¬ n.SpeaksFor host := by
  rintro ⟨a, ha, hoid, t, ht, hagree⟩
  rw [hn a ha hoid, hx] at ht
  cases ht
  rw [hhost] at hagree
  cases hagree

/-- The three ways to pass for a host that no common name of the subject agrees with: the key in
the text of another attribute, an escape, and the rest of a set. -/
theorem passed_without_speaksFor :
    (∃ c, Certificate.ofDer posingDer = .ok c ∧ c.subject = .name posingName ∧
      (∃ v records, verifyCertificate c (some "evil.com") = .ok (v, records) ∧ v.passed) ∧
      ¬ posingName.SpeaksFor "evil.com") ∧
    ((∃ v records, verifyCertificate ⟨[], .name commaName⟩ (some "a\\") = .ok (v, records) ∧
      v.passed) ∧ ¬ commaName.SpeaksFor "a\\") ∧
    (∃ v records, verifyCertificate ⟨[], .name pairName⟩ (some "a+o=b") = .ok (v, records) ∧
      v.passed) ∧ ¬ pairName.SpeaksFor "a+o=b" := by
  have hposing : (Subject.name posingName).render = .ok "O=CN=evil.com" := by cbv
  have hcomma : (Subject.name commaName).render = .ok "CN=a\\,b" := by cbv
  have hpair : (Subject.name pairName).render = .ok "CN=a+O=b" := by cbv
  refine ⟨⟨_, ofDer_posingDer, rfl, exists_passed hposing (by cbv) _, ?_⟩,
    ⟨exists_passed hcomma (by cbv) _, ?_⟩, exists_passed hpair (by cbv) _, ?_⟩
  · rintro ⟨a, ha, hoid, -⟩
    revert a
    decide
  · have htext : Attribute.text ⟨ObjectId.commonName, 0x0C, [97, 44, 98]⟩ =
        .ok (.text ['a', ',', 'b']) := by cbv
    exact not_speaksFor (by decide) htext (by cbv)
  · have htext : Attribute.text ⟨ObjectId.commonName, 0x0C, [97]⟩ = .ok (.text ['a']) := by cbv
    exact not_speaksFor (by decide) htext (by cbv)

end PeerCheck
