import PeerCheck.Cert.Name
import Mathlib.Data.List.Forall2

/-!
# Attributes of a name and their texts

A name whose texts are known has a text for each attribute, set by set (`forall₂_texts`), so what
holds of the texts in the order of writing holds of the attributes in that order.
-/

namespace PeerCheck.Cert

theorem forall₂_of_mapM {α β ε : Type} {f : α → Except ε β} {xs : List α} {ys : List β}
    (h : xs.mapM f = .ok ys) : List.Forall₂ (fun x y => f x = .ok y) xs ys := by
  induction xs generalizing ys with
  | nil =>
    cases h
    exact .nil
  | cons x xs ih =>
    rw [List.mapM_cons] at h
    cases hx : f x with
    | error e => rw [hx] at h; cases h
    | ok y =>
      cases hxs : xs.mapM f with
      | error e => rw [hx, hxs] at h; cases h
      | ok zs =>
        rw [hx, hxs] at h
        cases h
        exact .cons hx (ih hxs)

theorem Attribute.text_of_named {a : Attribute} {t : NamedText} (h : a.named = .ok t) :
    t.oid = a.oid ∧ a.text = .ok t.text := by
  rw [named] at h
  cases ha : a.text with
  | error e => rw [ha] at h; cases h
  | ok s =>
    rw [ha] at h
    cases h
    exact ⟨rfl, rfl⟩

/-- Only a unique identifier may be without a text. -/
theorem Attribute.oid_of_octets {a : Attribute} {bytes : List UInt8}
    (h : a.text = .ok (.octets bytes)) : a.oid = ObjectId.uniqueIdentifier := by
  rw [text] at h
  split at h
  · split at h
    · assumption
    · cases h
  · extract_lets decoded at h
    rcases decoded with _ | _ | cs <;> cases h

namespace Name

theorem forall₂_setTexts {set : List Attribute} {texts : List NamedText}
    (h : setTexts set = .ok texts) : List.Forall₂ (fun a t => a.named = .ok t) set texts := by
  rw [setTexts] at h
  cases hm : set.mapM Attribute.named with
  | error e => rw [hm] at h; cases h
  | ok ts =>
    rw [hm] at h
    change (if _ then _ else _) = _ at h
    split at h
    · cases h
    · cases h
      exact forall₂_of_mapM hm

theorem forall₂_flatten {n : Name} {ts : List (List NamedText)}
    (h : List.Forall₂ (fun set t => setTexts set = .ok t) n ts) :
    List.Forall₂ (fun a t => a.named = .ok t) n.flatten ts.flatten :=
  List.rel_flatten (h.imp fun _ _ => forall₂_setTexts)

theorem forall₂_texts {n : Name} {ts : List (List NamedText)} (h : texts n = .ok ts) :
    List.Forall₂ (fun a t => a.named = .ok t) n.reverse.flatten ts.reverse.flatten :=
  forall₂_flatten (List.forall₂_reverse_iff.2 (forall₂_of_mapM h))

end Name

/-- The first common name of a name is the first of the texts. -/
theorem find?_texts_of_find? {l : List Attribute} {ts : List NamedText} {a : Attribute}
    {oid : ObjectId} (h : List.Forall₂ (fun a t => a.named = .ok t) l ts)
    (ha : l.find? (·.oid == oid) = some a) :
    ∃ t, a.named = .ok t ∧ ts.find? (·.oid == oid) = some t := by
  induction h with
  | nil => cases ha
  | @cons x t l ts hx _ ih =>
    rw [List.find?_cons] at ha ⊢
    rw [(Attribute.text_of_named hx).1]
    split at ha
    · cases ha
      exact ⟨t, hx, rfl⟩
    · exact ih ha

/-- A split of the first of two related lists splits the second. -/
theorem exists_append_of_forall₂ {α β : Type} {R : α → β → Prop} {xs ys : List α} {l : List β}
    (h : List.Forall₂ R (xs ++ ys) l) :
    ∃ us vs, l = us ++ vs ∧ List.Forall₂ R xs us ∧ List.Forall₂ R ys vs := by
  induction xs generalizing l with
  | nil => exact ⟨[], l, rfl, .nil, h⟩
  | cons x xs ih =>
    obtain ⟨z, l, hz, hl, rfl⟩ := List.forall₂_cons_left_iff.1 h
    obtain ⟨us, vs, rfl, hus, hvs⟩ := ih hl
    exact ⟨z :: us, vs, rfl, .cons hz hus, hvs⟩

/-- A split of the second of two related lists splits the first. -/
theorem exists_split_of_forall₂ {α β : Type} {R : α → β → Prop} {l : List α} {before : List β}
    {y : β} {after : List β} (h : List.Forall₂ R l (before ++ y :: after)) :
    ∃ b x a, l = b ++ x :: a ∧ List.Forall₂ R b before ∧ R x y := by
  have hflip : List.Forall₂ (flip R) (before ++ y :: after) l := h.flip
  obtain ⟨b, rest, rfl, hb, hrest⟩ := exists_append_of_forall₂ hflip
  obtain ⟨x, a, hx, -, rfl⟩ := List.forall₂_cons_left_iff.1 hrest
  exact ⟨b, x, a, rfl, hb.flip, hx⟩

end PeerCheck.Cert
