import PeerCheck.Config.Load
import PeerCheck.Proofs.Json.Printable
import PeerCheck.Proofs.Text.Utf8

/-!
# Values kept in files

A file with the text of a plain value is read as that value (`readFile_of_line`), so that every
plain value is what some file holds.
-/

namespace PeerCheck.Config

open PeerCheck.Json PeerCheck.Number PeerCheck.Text

variable {files : Files} {room : Nat} {path : Spelling} {bytes : List UInt8} {cs : List Char}
  {v : Value}

theorem uniformLines_of_notMem (h : '\r' ∉ cs) : uniformLines cs = cs := by
  fun_induction uniformLines cs with
  | case1 cs ih => simp at h
  | case2 cs _ ih => simp at h
  | case3 c cs _ _ ih => rw [ih fun hc => h (List.mem_cons_of_mem c hc)]
  | case4 => rfl

theorem valueOfBytes_of_parse (hdecode : Utf8.decode bytes = .ok cs)
    (hparse : parseWithin room (uniformLines cs) = .ok v) :
    valueOfBytes room path bytes = .ok v := by
  simp only [valueOfBytes, hdecode, hparse]
  rfl

/-- What is read of a file that is there. -/
theorem readFile_of_isFile (hfile : files.isFile path = .ok true)
    (hread : files.read path = .ok bytes) :
    readFile files room path = valueOfBytes room path bytes := by
  unfold readFile
  rw [hfile]
  show ((files.read path).mapError _ >>= _) = _
  rw [hread]
  rfl

def lineBytes (v : Value) : List UInt8 := Utf8.encode v.line.toList

/-- The text is of ASCII characters and has no carriage return. -/
theorem decode_lineBytes (hv : v.Plain) : Utf8.decode (lineBytes v) = .ok (v.write .oneLine 0) ∧
    uniformLines (v.write .oneLine 0) = v.write .oneLine 0 := by
  have hprintable := hv.isPrintable_write 0
  have hascii : ∀ c ∈ v.write .oneLine 0, c.toNat < 0x80 := by
    intro c hc
    have := (hprintable c hc).2
    omega
  have hreturn : '\r' ∉ v.write .oneLine 0 := fun hc => absurd (hprintable _ hc) (by decide)
  rw [lineBytes, Value.line, String.toList_ofList]
  exact ⟨Utf8.decode_encode hascii, uniformLines_of_notMem hreturn⟩

theorem readFile_of_line (hv : v.Plain) (hroom : v.depth ≤ room)
    (hfile : files.isFile path = .ok true) (hread : files.read path = .ok (lineBytes v)) :
    readFile files room path = .ok v := by
  obtain ⟨hdecode, huniform⟩ := decode_lineBytes hv
  rw [readFile_of_isFile hfile hread]
  refine valueOfBytes_of_parse hdecode ?_
  rw [huniform]
  exact parseWithin_write hv .oneLine hroom

/-- A value that is no list or object, and no number that is not read back. -/
def isScalar : Value → Bool
  | .null | .bool _ | .str _ => true
  | .int n => (decimal n.natAbs).length ≤ maxIntDigits
  | _ => false

theorem plain_of_isScalar (h : isScalar v = true) : v.Plain := by
  cases v with
  | null => exact .null
  | bool b => exact .bool b
  | int n => exact .int n (of_decide_eq_true h)
  | str s => exact .str s
  | _ => cases h

theorem plain_obj {fields : Fields} (hn : (fields.map Prod.fst).Nodup)
    (h : ∀ f ∈ fields, isScalar f.2 = true) : (Value.obj fields).Plain :=
  .obj fields hn fun f hf => plain_of_isScalar (h f hf)

def rcFiles (bytes : List UInt8) : Files := ⟨[([.of "rc"], .file bytes)]⟩

theorem isFile_rcFiles (bytes : List UInt8) : (rcFiles bytes).isFile "rc" = .ok true := rfl

theorem read_rcFiles (bytes : List UInt8) : (rcFiles bytes).read "rc" = .ok bytes := rfl

theorem tidy_rc : Path.tidy "rc" = "rc" := rfl

/-- Every plain value is what some file holds. -/
theorem readFile_rcFiles (hv : v.Plain) (hroom : v.depth ≤ room) :
    readFile (rcFiles (lineBytes v)) room (Path.tidy "rc") = .ok v := by
  rw [tidy_rc]
  exact readFile_of_line hv hroom (isFile_rcFiles _) (read_rcFiles _)

end PeerCheck.Config
