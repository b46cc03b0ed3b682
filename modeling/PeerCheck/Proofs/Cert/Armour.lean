import PeerCheck.Cert.Certificate
import PeerCheck.Files.Tree
import PeerCheck.Proofs.Run
import PeerCheck.Proofs.Text.Search
import PeerCheck.Proofs.Text.Utf8

/-!
# Certificates in files

A file is taken for an armoured one wherever the mark of armour stands in it, be it inside the
encoding of a certificate. What an armoured text holds has fewer bytes than the text
(`length_of_certificate?`), so an encoding with the mark in it is never read as the certificate it
is: what is read is a fault, or the shorter certificate that is armoured inside it
(`file_read_iff_unmarked`).
-/

namespace PeerCheck

open PeerCheck.Text

/-! ## Base64 -/

namespace Text.Base64

theorem length_of_decodeLast {a b c : Char} {bytes : List UInt8}
    (h : decodeLast a b c = some bytes) : bytes.length ≤ 2 := by
  unfold decodeLast at h
  obtain ⟨x, -, h⟩ := Option.bind_eq_some_iff.mp h
  obtain ⟨y, -, h⟩ := Option.bind_eq_some_iff.mp h
  split at h
  · obtain ⟨-, h⟩ := Option.ite_none_right_eq_some.mp h
    cases h
    exact Nat.le_succ 1
  · obtain ⟨z, -, h⟩ := Option.bind_eq_some_iff.mp h
    obtain ⟨-, h⟩ := Option.ite_none_right_eq_some.mp h
    cases h
    exact Nat.le_refl 2

/-- Four characters give three bytes at most. -/
theorem length_of_decode? {cs : List Char} {bytes : List UInt8} (h : decode? cs = some bytes) :
    4 * bytes.length ≤ 3 * cs.length := by
  fun_induction decode? cs generalizing bytes with
  | case1 =>
    cases h
    exact Nat.zero_le _
  | case2 a b c =>
    have := length_of_decodeLast h
    simp only [List.length_cons, List.length_nil]
    omega
  | case3 a b c d rest _ ih =>
    obtain ⟨x, -, h⟩ := Option.bind_eq_some_iff.mp h
    obtain ⟨y, -, h⟩ := Option.bind_eq_some_iff.mp h
    obtain ⟨z, -, h⟩ := Option.bind_eq_some_iff.mp h
    obtain ⟨w, -, h⟩ := Option.bind_eq_some_iff.mp h
    obtain ⟨more, hmore, h⟩ := Option.bind_eq_some_iff.mp h
    cases h
    have := ih hmore
    simp only [List.length_cons]
    omega
  | case4 => cases h

end Text.Base64

namespace Cert

/-! ## Armour -/

namespace Pem

theorem exists_of_mem_mapM {α β : Type} {f : α → Option β} {xs : List α} {ys : List β} {y : β}
    (h : xs.mapM f = some ys) (hy : y ∈ ys) : ∃ x ∈ xs, f x = some y := by
  induction xs generalizing ys with
  | nil =>
    cases h
    cases hy
  | cons x xs ih =>
    rw [List.mapM_cons] at h
    obtain ⟨z, hz, h⟩ := Option.bind_eq_some_iff.mp h
    obtain ⟨zs, hzs, h⟩ := Option.bind_eq_some_iff.mp h
    cases h
    obtain rfl | hy := List.mem_cons.mp hy
    · exact ⟨x, List.mem_cons_self, hz⟩
    · obtain ⟨w, hw, hfw⟩ := ih hzs hy
      exact ⟨w, List.mem_cons_of_mem x hw, hfw⟩

theorem length_of_cutAt? {needle s before after : List UInt8}
    (h : cutAt? needle s = some (before, after)) :
    s.length = before.length + needle.length + after.length := by
  rw [append_of_cutAt? h, List.length_append, List.length_append]

/-- A block is taken out of the bytes, with the mark that begins it. -/
theorem length_of_takeBlock? {bytes rest : List UInt8} {b : Block}
    (h : takeBlock? bytes = some (b, rest)) : b.body.length + rest.length < bytes.length := by
  obtain ⟨⟨before, r₁⟩, h₁, h⟩ := Option.bind_eq_some_iff.mp h
  obtain ⟨⟨label, r₂⟩, h₂, h⟩ := Option.bind_eq_some_iff.mp h
  obtain ⟨⟨body, r₃⟩, h₃, h⟩ := Option.bind_eq_some_iff.mp h
  obtain ⟨⟨endLabel, r₄⟩, h₄, h⟩ := Option.bind_eq_some_iff.mp h
  cases h
  have hmark : 0 < beginMark.length := by decide +kernel
  have := length_of_cutAt? h₁
  have := length_of_cutAt? h₂
  have := length_of_cutAt? h₃
  have := length_of_cutAt? h₄
  dsimp only
  omega

theorem length_of_mem_blocksUpTo {fuel : Nat} {bytes : List UInt8} {b : Block}
    (h : b ∈ blocksUpTo fuel bytes) : b.body.length < bytes.length := by
  induction fuel generalizing bytes with
  | zero => cases h
  | succ fuel ih =>
    rw [blocksUpTo] at h
    split at h
    · next first rest htake =>
      have hlength := length_of_takeBlock? htake
      obtain rfl | hrest := List.mem_cons.mp h
      · omega
      · have := ih hrest
        omega
    · cases h

theorem length_splitHeaders (body : List UInt8) : (splitHeaders body).2.length ≤ body.length := by
  have hdrop : (body.dropWhile isSpace).length ≤ body.length :=
    (List.dropWhile_sublist _).length_le
  unfold splitHeaders
  dsimp only
  split
  · next parts hcut =>
    have := length_of_cutAt? hcut
    omega
  · cases hcut : cutAt? [0x0D, 0x0A, 0x0D, 0x0A] (body.dropWhile isSpace) with
    | none => exact hdrop
    | some parts =>
      have := length_of_cutAt? hcut
      simp only [Option.getD_some]
      omega

theorem length_of_block {b : Block} {data : List UInt8} (h : b.decode? = some data) :
    data.length ≤ b.body.length := by
  have hheaders := length_splitHeaders b.body
  unfold Block.decode? at h
  extract_lets read at h
  split at h
  · cases h
  -- each layer gives no more than it is given: the data, its text and its bytes
  · replace h : (Utf8.decode? ((splitHeaders b.body).2.filter fun c => !isSpace c) >>= fun text =>
      if areHeaders (splitHeaders b.body).1 then Base64.decode? text else none) = some data := h
    obtain ⟨text, htext, h⟩ := Option.bind_eq_some_iff.mp h
    obtain ⟨-, h⟩ := Option.ite_none_right_eq_some.mp h
    have hdata := Base64.length_of_decode? h
    have htext := Utf8.length_of_decode? htext
    have hfilter := List.length_filter_le (fun c => !isSpace c) (splitHeaders b.body).2
    omega

/-- The bytes of an armoured certificate are fewer than those of the text that armours it. -/
theorem length_of_certificate? {bytes der : List UInt8} (h : certificate? bytes = some der) :
    der.length < bytes.length := by
  obtain ⟨decoded, hall, h⟩ := Option.bind_eq_some_iff.mp h
  obtain ⟨⟨label, data⟩, hfound, rfl⟩ := Option.map_eq_some_iff.mp h
  obtain ⟨b, hb, hdata⟩ := exists_of_mem_mapM hall (List.mem_of_find?_eq_some hfound)
  obtain ⟨data, hdata, hpair⟩ := Option.map_eq_some_iff.mp hdata
  cases hpair
  exact Nat.lt_of_le_of_lt (length_of_block hdata) (length_of_mem_blocksUpTo hb)

end Pem

/-! ## Files -/

namespace Certificate

variable {d : List UInt8} {c : Certificate}

theorem der_of_ofDer (h : ofDer d = .ok c) : c.der = d := by
  unfold ofDer at h
  split at h
  · cases h
  · split at h
    · cases h
      rfl
    · cases h

theorem length_of_ofPem (h : ofPem d = .ok c) : c.der.length < d.length := by
  unfold ofPem at h
  split at h
  · cases h
  · next der hpem =>
    rw [der_of_ofDer h]
    exact Pem.length_of_certificate? hpem

theorem ofFile_of_unmarked (h : ¬ Pem.fileMark <:+: d) : ofFile d = ofDer d := by
  rw [ofFile, occursIn, cutAt?_eq_none_iff.mpr h]
  rfl

theorem ofFile_of_marked (h : Pem.fileMark <:+: d) : ofFile d = ofPem d := by
  have hcut : (cutAt? Pem.fileMark d).isSome = true := by
    rw [Option.isSome_iff_ne_none]
    exact fun hnone => cutAt?_eq_none_iff.mp hnone h
  rw [ofFile, occursIn, hcut]
  rfl

/-- A file that holds the encoding of a certificate is read as that certificate just where the mark
of armour does not stand in it. Where it does, the file is read for what is armoured in it, which is
never that certificate: it has fewer bytes. -/
theorem file_read_iff_unmarked {fs : Files} {path : String} (hfile : fs.read path = .ok d)
    (hd : ofDer d = .ok c) :
    c.der = d ∧
      ((fs.read path >>= ofFile) = .ok c ↔ ¬ Pem.fileMark <:+: d) ∧
      (Pem.fileMark <:+: d → (fs.read path >>= ofFile) = ofPem d ∧
        ∀ c', (fs.read path >>= ofFile) = .ok c' → c'.der.length < c.der.length) := by
  have hload : (fs.read path >>= ofFile) = ofFile d := by
    rw [hfile]
    rfl
  have hder := der_of_ofDer hd
  have hshort : ∀ {c'}, Pem.fileMark <:+: d → ofFile d = .ok c' → c'.der.length < c.der.length := by
    intro c' hmark hc
    rw [ofFile_of_marked hmark] at hc
    rw [hder]
    exact length_of_ofPem hc
  rw [hload]
  refine ⟨hder, ⟨fun hc hmark => ?_, fun hmark => ?_⟩, fun hmark => ⟨ofFile_of_marked hmark, ?_⟩⟩
  · exact Nat.lt_irrefl _ (hshort hmark hc)
  · rw [ofFile_of_unmarked hmark, hd]
  · exact fun c' => hshort hmark

/-- The encoding of a certificate of which the subject is an organization of ten bytes. -/
def organizationDer (name : List UInt8) : List UInt8 :=
  [48, 129, 152, 48, 129, 133, 160, 3, 2, 1, 2, 2, 1, 1, 48, 10, 6, 8, 42, 134, 72, 206, 61, 4, 3,
    2, 48, 12, 49, 10, 48, 8, 6, 3, 85, 4, 10, 12, 1, 105, 48, 30, 23, 13, 50, 48, 48, 49, 48, 49,
    48, 48, 48, 48, 48, 48, 90, 23, 13, 51, 48, 48, 49, 48, 49, 48, 48, 48, 48, 48, 48, 90, 48, 21,
    49, 19, 48, 17, 6, 3, 85, 4, 10, 12, 10] ++ name ++
    ([48, 42, 48, 5, 6, 3, 43, 101, 112, 3, 33] ++ List.replicate 33 0 ++
      [48, 10, 6, 8, 42, 134, 72, 206, 61, 4, 3, 2, 3, 2, 0, 0])

def organization (name : List UInt8) : Certificate :=
  ⟨organizationDer name, .name [[⟨[2, 5, 4, 10], 0x0C, name⟩]]⟩

/-- The mark of armour, of ten bytes. -/
def markName : List UInt8 :=
  [45, 45, 45, 45, 45, 66, 69, 71, 73, 78]

def plainName : List UInt8 :=
  [69, 120, 97, 109, 112, 108, 101, 32, 67, 111]

def certFiles (bytes : List UInt8) : Files :=
  ⟨[([.of "c.der"], .file bytes)]⟩

theorem read_certFiles (bytes : List UInt8) : (certFiles bytes).read "c.der" = .ok bytes := rfl

set_option maxRecDepth 4000 in
/-- The encoding of a certificate in a file, without the mark and with the mark as the name of the
subject. -/
theorem plain_file_read_marked_not :
    ((certFiles (organizationDer plainName)).read "c.der" >>= ofFile) =
      .ok (organization plainName) ∧
    ofDer (organizationDer markName) = .ok (organization markName) ∧
      ((certFiles (organizationDer markName)).read "c.der" >>= ofFile) ≠
        .ok (organization markName) := by
  have hplain : ofDer (organizationDer plainName) = .ok (organization plainName) := by cbv
  have hmarked : ofDer (organizationDer markName) = .ok (organization markName) := by cbv
  obtain ⟨-, hplainly, -⟩ := file_read_iff_unmarked (read_certFiles _) hplain
  obtain ⟨-, hiff, -⟩ := file_read_iff_unmarked (read_certFiles _) hmarked
  have hmark : Pem.fileMark = markName := by decide +kernel
  refine ⟨hplainly.mpr (by decide +kernel), hmarked, fun h => hiff.mp h ?_⟩
  rw [hmark]
  exact ⟨_, _, rfl⟩

end Certificate

end Cert

end PeerCheck
