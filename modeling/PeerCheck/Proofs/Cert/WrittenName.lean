import PeerCheck.Proofs.Cert.Escape
import PeerCheck.Proofs.Text.Digit

/-!
# The key of the common name in a written name

A key of the common name is written for an attribute of that type, and otherwise only inside the
text of an attribute: no other key, no separator and no escape makes one (`after?_written`). So the
common name of a written name is taken from the first attribute, in the order of writing, that has
the type or the key in its text (`exists_bearer`, `commonNameOf?_of_first`).
-/

namespace PeerCheck.Cert

open PeerCheck.Text

theorem commonNameKey_ne_nil : commonNameKey ≠ [] := by decide

/-! ## Keys -/

theorem after?_append_equals {k : List Char} (hk : ¬ ['C', 'N'] <:+: k) (v : List Char) :
    after? commonNameKey (k ++ '=' :: v) = after? commonNameKey v := by
  induction k with
  | nil => rw [List.nil_append, after?_cons]; rfl
  | cons a k ih =>
    have hp : dropPrefix? commonNameKey (a :: (k ++ '=' :: v)) = none := by
      rw [dropPrefix?_eq_none_iff]
      intro h
      obtain ⟨rfl, hn⟩ := List.cons_prefix_cons.1 h
      cases k with
      | nil => exact absurd (List.cons_prefix_cons.1 hn).1 (by decide)
      | cons b k =>
        obtain ⟨rfl, -⟩ := List.cons_prefix_cons.1 hn
        exact hk ⟨[], k, rfl⟩
    rw [List.cons_append, after?_cons, hp, Option.none_or]
    exact ih fun h => hk (List.infix_cons h)

theorem not_mem_dotted (oid : ObjectId) : 'C' ∉ oid.dotted := by
  intro h
  rcases mem_joinWith h with h | ⟨p, hp, hc⟩
  · exact absurd h (by decide)
  · obtain ⟨n, -, rfl⟩ := List.mem_map.1 hp
    obtain ⟨d, hd, he⟩ := mem_digits (by decide) hc
    exact absurd he ((by decide : ∀ d < 10, 'C' ≠ digitChar d) d hd)

/-- Only the key of the common name ends like it. -/
theorem not_infix_attributeKey {oid : ObjectId} (h : oid ≠ ObjectId.commonName) :
    ¬ ['C', 'N'] <:+: attributeKey oid := by
  have hkeys : ∀ kv ∈ attributeKeys, kv.1 ≠ ObjectId.commonName →
      ¬ ['C', 'N'] <:+: kv.2.toList := by decide
  rw [attributeKey]
  split
  · rename_i key hl
    obtain ⟨l₁, l₂, heq, -⟩ := List.lookup_eq_some_iff.1 hl
    exact hkeys (oid, key) (by simp [heq]) h
  · exact fun hi => not_mem_dotted oid (hi.subset (by simp))

theorem attributeKey_commonName : attributeKey ObjectId.commonName = ['C', 'N'] := rfl

/-! ## Attributes -/

theorem not_infix_octets (bytes : List UInt8) :
    ¬ commonNameKey <:+: (AttributeText.octets bytes).written := by
  intro h
  have hc : 'C' ∈ (AttributeText.octets bytes).written := h.subset (by decide)
  cases bytes with
  | nil => simp [AttributeText.written] at hc
  | cons b bytes =>
    rw [AttributeText.written, List.mem_cons] at hc
    · obtain ⟨b, -, hb⟩ := List.mem_flatMap.1 (hc.resolve_left (by decide))
      obtain ⟨d, hd, he⟩ := mem_hexPadded hb
      exact absurd he ((by decide : ∀ d < 16, 'C' ≠ digitChar d) d hd)
    · simp

/-- What an attribute is written with behind a key of the common name. -/
def NamedText.borne? (a : NamedText) : Option (List Char) :=
  if a.oid = ObjectId.commonName then some a.text.written
  else match a.text with
    | .text cs => (after? commonNameKey cs).map fun q => escapeLast (escapeInside q)
    | .octets _ => none

theorem after?_written (a : NamedText) : after? commonNameKey a.written = a.borne? := by
  rw [NamedText.borne?, NamedText.written]
  split
  · rename_i h
    rw [h, attributeKey_commonName]
    exact after?_append_self commonNameKey_ne_nil a.text.written
  · rename_i h
    rw [after?_append_equals (not_infix_attributeKey h)]
    split
    · rename_i cs ht
      rw [ht]
      exact after?_escapeText cs
    · rename_i bytes ht
      rw [ht, after?_eq_none_iff]
      exact not_infix_octets bytes

/-! ## Names -/

/-- What is written of a set behind one of its attributes. -/
def restOfSet (r : List NamedText) : List Char := if r = [] then [] else '+' :: writtenSet r

theorem after?_writtenSet {set : List NamedText} {rest : List Char}
    (h : after? commonNameKey (writtenSet set) = some rest) :
    ∃ b a r q, set = b ++ a :: r ∧ (∀ x ∈ b, x.borne? = none) ∧ a.borne? = some q ∧
      rest = q ++ restOfSet r := by
  obtain ⟨ps, part, qs, q, hparts, hps, hq, rfl⟩ :=
    after?_joinWith (by decide) commonNameKey_ne_nil h
  obtain ⟨b, ar, rfl, rfl, har⟩ := List.map_eq_append_iff.1 hparts
  obtain ⟨a, r, rfl, rfl, rfl⟩ := List.map_eq_cons_iff.1 har
  refine ⟨b, a, r, q, rfl, ?_, by rwa [← after?_written], ?_⟩
  · intro x hx
    rw [← after?_written]
    exact hps _ (List.mem_map_of_mem hx)
  · simp [restOfSet, writtenSet]

theorem after?_writtenSet_eq_none_iff {set : List NamedText} :
    after? commonNameKey (writtenSet set) = none ↔ ∀ x ∈ set, x.borne? = none := by
  rw [writtenSet, after?_joinWith_eq_none_iff (by decide) commonNameKey_ne_nil, List.forall_mem_map]
  exact forall₂_congr fun x _ => by rw [after?_written]

/-- What is written behind a set begins with a comma, if it is anything. -/
theorem takeWhile_append_restOfName (q : List Char) (sets : List (List Char)) :
    (q ++ if sets = [] then [] else ',' :: joinWith [','] sets).takeWhile (· != ',') =
      q.takeWhile (· != ',') := by
  split
  · rw [List.append_nil]
  · rw [List.takeWhile_append]
    split
    · rename_i hlen
      rw [(List.takeWhile_sublist _).eq_of_length hlen]
      simp
    · rfl

/-- The common name of a written name is borne by one attribute: none that is written before it
bears one, and up to the first comma nothing is added but the rest of its set. -/
theorem exists_bearer {texts : List (List NamedText)} {cn : List Char}
    (h : commonNameOf? (writtenName texts) = some cn) :
    ∃ before a r after q, texts.reverse.flatten = before ++ a :: (r ++ after) ∧
      (∀ x ∈ before, x.borne? = none) ∧ a.borne? = some q ∧
      cn = (q ++ restOfSet r).takeWhile (· != ',') := by
  obtain ⟨⟨p, rest⟩, hcut, rfl⟩ := Option.map_eq_some_iff.1 h
  have hafter : after? commonNameKey (writtenName texts) = some rest := by rw [after?, hcut]; rfl
  obtain ⟨ps, part, qs, q', hparts, hps, hq', rfl⟩ :=
    after?_joinWith (by decide) commonNameKey_ne_nil hafter
  obtain ⟨sets, later, hsets, rfl, hlater⟩ := List.map_eq_append_iff.1 hparts
  obtain ⟨set, later, rfl, rfl, rfl⟩ := List.map_eq_cons_iff.1 hlater
  obtain ⟨b, a, r, q, rfl, hb, ha, rfl⟩ := after?_writtenSet hq'
  refine ⟨sets.flatten ++ b, a, r, later.flatten, q, ?_, ?_, ha, ?_⟩
  · rw [hsets]
    simp
  · intro x hx
    rcases List.mem_append.1 hx with hx | hx
    · obtain ⟨s, hs, hxs⟩ := List.mem_flatten.1 hx
      exact after?_writtenSet_eq_none_iff.1 (hps _ (List.mem_map_of_mem hs)) x hxs
    · exact hb x hx
  · exact takeWhile_append_restOfName _ _

/-! ## The first bearer -/

theorem commonNameOf?_eq (subject : List Char) :
    commonNameOf? subject = (after? commonNameKey subject).map fun q => q.takeWhile (· != ',') := by
  rw [commonNameOf?, after?, Option.map_map]
  rfl

theorem after?_writtenSet_of_first {b r : List NamedText} {a : NamedText} {q : List Char}
    (hb : ∀ x ∈ b, x.borne? = none) (ha : a.borne? = some q) :
    after? commonNameKey (writtenSet (b ++ a :: r)) = some (q ++ restOfSet r) := by
  have hparts : ∀ p ∈ b.map NamedText.written, after? commonNameKey p = none := by
    intro p hp
    obtain ⟨x, hx, rfl⟩ := List.mem_map.1 hp
    rw [after?_written, hb x hx]
  have hfirst := after?_joinWith_of_first (c := '+') (by decide) commonNameKey_ne_nil hparts
    ((after?_written a).trans ha) (r.map NamedText.written)
  rw [writtenSet, List.map_append, List.map_cons, hfirst]
  simp only [restOfSet, writtenSet, List.map_eq_nil_iff]

/-- The first attribute in the order of writing that bears a common name gives it, with the rest of
its set, up to the first comma. -/
theorem commonNameOf?_of_first {later earlier : List (List NamedText)} {b r : List NamedText}
    {a : NamedText} {q : List Char} (hearlier : ∀ x ∈ earlier.flatten, x.borne? = none)
    (hb : ∀ x ∈ b, x.borne? = none) (ha : a.borne? = some q) :
    commonNameOf? (writtenName (later ++ (b ++ a :: r) :: earlier)) =
      some ((q ++ restOfSet r).takeWhile (· != ',')) := by
  have hparts : ∀ p ∈ earlier.reverse.map writtenSet, after? commonNameKey p = none := by
    intro p hp
    obtain ⟨set, hset, rfl⟩ := List.mem_map.1 hp
    refine after?_writtenSet_eq_none_iff.2 fun x hx => hearlier x ?_
    exact List.mem_flatten.2 ⟨set, List.mem_reverse.1 hset, hx⟩
  have hfirst := after?_joinWith_of_first (c := ',') (by decide) commonNameKey_ne_nil hparts
    (after?_writtenSet_of_first (r := r) hb ha) (later.reverse.map writtenSet)
  have hname : writtenName (later ++ (b ++ a :: r) :: earlier) =
      joinWith [','] (earlier.reverse.map writtenSet ++
        writtenSet (b ++ a :: r) :: later.reverse.map writtenSet) := by
    simp [writtenName]
  rw [commonNameOf?_eq, hname, hfirst, Option.map_some, takeWhile_append_restOfName]

end PeerCheck.Cert
