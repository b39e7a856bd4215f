import OpenXRSdk.ObjectInfo
import OpenXRSdk.PositionalDigits

/-!
# Integers in hexadecimal

`to_hex` reads the memory of an integer from its start and fills the string from its end.
What it writes is the number where the least significant byte comes first in memory; the
machines that the sources can be built for include others.
-/
namespace OpenXRSdk

open Nat PositionalDigits

/-! ## Writing -/

def hex : StdString := "0123456789abcdef".toList

def hexDigit (d : ℕ) : Char := hex.getD d default

/-- A string that is being written, and where the iterator stands in it. -/
structure HexCursor where
  out : StdString
  ch : ℕ
  deriving DecidableEq, Repr

namespace HexCursor

def put (c : Char) (s : HexCursor) : Except Fault HexCursor :=
  match s.ch with
  | 0 => .error .undefinedBehaviour
  | ch + 1 => .ok ⟨s.out.set ch c, ch⟩

def putByte (b : UInt8) (s : HexCursor) : Except Fault HexCursor := do
  let s ← s.put (hexDigit ((b >>> 0) &&& 0xf).toNat)
  s.put (hexDigit ((b >>> 4) &&& 0xf).toNat)

def putBytes (s : HexCursor) : List UInt8 → Except Fault HexCursor
  | [] => .ok s
  | b :: data => do
    let s ← s.putByte b
    s.putBytes data

end HexCursor

def toHex (data : List UInt8) (withPrefix : Bool) : Except Fault StdString := do
  let out := List.replicate (data.length * 2 + if withPrefix then 2 else 0) '?'
  let out := if withPrefix then (out.set 0 '0').set 1 'x' else out
  let s ← HexCursor.putBytes ⟨out, out.length⟩ data
  return s.out

/-! ## Integers in memory -/

inductive ByteOrder
  | little
  | big
  deriving DecidableEq, Repr

/-- The predefined macros that tell the machine that is compiled for. -/
inductive MachineMacro
  | x86_64
  | ilp32
  | mX64
  | mIX86
  | i386
  | x86
  | aarch64
  | lp64
  | mArm64
  | armArch
  | armPcsVfp
  | android
  | mArm
  | armArch5TE
  | mips64
  | mips
  | powerpc64
  | powerpc
  | s390x
  | zarch
  | hppa
  | alpha
  | ia64
  | mIA64
  | m68k
  | riscvXlen
  | sparc
  | arch64
  | loongarch64
  deriving DecidableEq, Repr

structure Machine where
  defined : MachineMacro → Bool
  /-- The value of `__ARM_ARCH`. -/
  armArch : ℕ
  /-- The value of `__riscv_xlen`. -/
  riscvXlen : ℕ
  byteOrder : ByteOrder

/-- `XR_ARCH_ABI`; on any other machine the sources do not compile. -/
def Machine.xrArchAbi (m : Machine) : Option StdString :=
  if m.defined .x86_64 ∧ m.defined .ilp32 then some "x32".toList
  else if m.defined .mX64 ∨ m.defined .x86_64 then some "x86_64".toList
  else if m.defined .mIX86 ∨ m.defined .i386 ∨ m.defined .x86 then some "i686".toList
  else if (m.defined .aarch64 ∧ m.defined .lp64) ∨ m.defined .mArm64 then some "aarch64".toList
  else if (m.defined .armArch ∧ 7 ≤ m.armArch ∧ (m.defined .armPcsVfp ∨ m.defined .android)) ∨
      m.defined .mArm then some "armv7a-vfp".toList
  else if m.defined .armArch5TE ∨ (m.defined .armArch ∧ 5 < m.armArch) then some "armv5te".toList
  else if m.defined .mips64 then some "mips64".toList
  else if m.defined .mips then some "mips".toList
  else if m.defined .powerpc64 ∧ m.byteOrder = .big then some "ppc64".toList
  else if m.defined .powerpc ∧ m.byteOrder = .little then some "ppc64el".toList
  else if m.defined .s390x ∨ m.defined .zarch then some "s390x".toList
  else if m.defined .hppa then some "hppa".toList
  else if m.defined .alpha then some "alpha".toList
  else if m.defined .ia64 ∨ m.defined .mIA64 then some "ia64".toList
  else if m.defined .m68k then some "m68k".toList
  else if m.defined .riscvXlen ∧ m.riscvXlen = 64 then some "riscv64".toList
  else if m.defined .sparc ∧ m.defined .arch64 then some "sparc64".toList
  else if m.defined .loongarch64 then some "loongarch64".toList
  else none

/-- The bytes of an integer, the least significant first. -/
def bytesOf {w : ℕ} (v : BitVec (8 * w)) : List UInt8 :=
  (List.range w).map fun i => ⟨v.extractLsb' (8 * i) 8⟩

/-- The bytes of an integer as they follow one another in memory. -/
def ByteOrder.stored {w : ℕ} (order : ByteOrder) (v : BitVec (8 * w)) : List UInt8 :=
  match order with
  | .little => bytesOf v
  | .big => (bytesOf v).reverse

/-- `to_hex(data)` of the `w` bytes of an integer or a pointer. -/
def toHexOf {w : ℕ} (order : ByteOrder) (v : BitVec (8 * w)) : Except Fault StdString :=
  toHex (order.stored v) true

def uint64ToHexString (order : ByteOrder) (val : UInt64) : Except Fault StdString :=
  @toHexOf 8 order val.toBitVec

def uint32ToHexString (order : ByteOrder) (val : UInt32) : Except Fault StdString :=
  @toHexOf 4 order val.toBitVec

/-- A handle is a pointer, or a `uint64_t` where pointers have four bytes. -/
def handleToHexString {w : ℕ} (order : ByteOrder) (handle : BitVec (8 * w)) : Except Fault StdString :=
  toHexOf order handle

def uintptrToHexString {w : ℕ} (order : ByteOrder) (val : BitVec (8 * w)) : Except Fault StdString :=
  toHexOf order val

def pointerToHexString {w : ℕ} (order : ByteOrder) (ptr : BitVec (8 * w)) : Except Fault StdString :=
  toHexOf order ptr

def XrSdkLogObjectInfo.toString (order : ByteOrder) (info : XrSdkLogObjectInfo) :
    Except Fault StdString := do
  let text ← uint64ToHexString order (UInt64.ofNat info.handle)
  return text ++ if info.name.isEmpty then [] else " (".toList ++ info.name ++ ")".toList

/-! ## Numbers in hexadecimal -/

/-- The `n` digits of a number, the most significant first. -/
def hexDigits (n v : ℕ) : StdString := ((digitsAppend 16 n v).map hexDigit).reverse

def hexValue? (c : Char) : Option ℕ :=
  if c.isDigit then some (c.toNat - '0'.toNat)
  else if 'a' ≤ c ∧ c ≤ 'f' then some (c.toNat - 'a'.toNat + 10)
  else if 'A' ≤ c ∧ c ≤ 'F' then some (c.toNat - 'A'.toNat + 10)
  else none

def readHexDigits (digits : StdString) : Option ℕ :=
  digits.foldlM (fun n c => (hexValue? c).map (16 * n + ·)) 0

def readHex : StdString → Option ℕ
  | '0' :: 'x' :: digits => readHexDigits digits
  | _ => none

theorem hexValue?_hexDigit {d : ℕ} (hd : d < 16) : hexValue? (hexDigit d) = some d := by
  revert d
  decide

/-- Digits that were written, the most significant first, are read back. -/
theorem readHexDigits_reverse {ds : List ℕ} (hds : ∀ d ∈ ds, d < 16) :
    readHexDigits (ds.map hexDigit).reverse = some (ofDigits 16 ds) := by
  unfold readHexDigits
  induction ds with
  | nil => rfl
  | cons d ds ih =>
    have hrest := ih fun e he => hds e (List.mem_cons_of_mem d he)
    have hd := hexValue?_hexDigit (hds d List.mem_cons_self)
    rw [List.map_cons, List.reverse_cons, List.foldlM_append, hrest]
    simp [hd, ofDigits_cons, Nat.add_comm]

/-! ## What is written -/

/-- The digits of the bytes, the last byte first. -/
def renderedBytes (data : List UInt8) : StdString :=
  ((splitDigits 16 (data.map UInt8.toNat)).map hexDigit).reverse

theorem renderedBytes_cons (b : UInt8) (data : List UInt8) :
    renderedBytes (b :: data) =
      renderedBytes data ++ [hexDigit (b.toNat / 16), hexDigit (b.toNat % 16)] := by
  simp [renderedBytes, splitDigits_cons]

theorem length_renderedBytes (data : List UInt8) : (renderedBytes data).length = 2 * data.length := by
  simp [renderedBytes, length_splitDigits]

theorem low_half (b : UInt8) : ((b >>> 0) &&& 0xf).toNat = b.toNat % 16 := by
  simpa using Nat.and_two_pow_sub_one_eq_mod b.toNat 4

theorem high_half (b : UInt8) : ((b >>> 4) &&& 0xf).toNat = b.toNat / 16 := by
  have hb : b.toNat / 16 < 16 := by
    have := b.toNat_lt
    omega
  have hshift : (b >>> 4).toNat = b.toNat / 16 := by
    rw [UInt8.toNat_shiftRight]
    exact Nat.shiftRight_eq_div_pow b.toNat 4
  rw [UInt8.toNat_and, hshift]
  exact (Nat.and_two_pow_sub_one_eq_mod _ 4).trans (Nat.mod_eq_of_lt hb)

/-- The last character before the iterator is overwritten. -/
theorem put_run (c d : Char) (before written : StdString) :
    HexCursor.put c ⟨before ++ d :: written, before.length + 1⟩ =
      .ok ⟨before ++ c :: written, before.length⟩ := by
  simp [HexCursor.put]

theorem putByte_run (b : UInt8) (before written : StdString) :
    HexCursor.putByte b ⟨before ++ '?' :: '?' :: written, before.length + 2⟩ =
      .ok ⟨before ++ hexDigit (b.toNat / 16) :: hexDigit (b.toNat % 16) :: written,
        before.length⟩ := by
  have hlow := put_run (hexDigit (b.toNat % 16)) '?' (before ++ ['?']) written
  have hhigh := put_run (hexDigit (b.toNat / 16)) '?' before (hexDigit (b.toNat % 16) :: written)
  simp only [List.append_assoc, List.singleton_append, List.length_append,
    List.length_singleton] at hlow
  unfold HexCursor.putByte
  rw [low_half, high_half, hlow]
  exact hhigh

/-- The loop overwrites the characters that were left for its bytes, and no others. -/
theorem putBytes_run (data : List UInt8) (before written : StdString) :
    HexCursor.putBytes ⟨before ++ (List.replicate (2 * data.length) '?' ++ written),
        before.length + 2 * data.length⟩ data =
      .ok ⟨before ++ (renderedBytes data ++ written), before.length⟩ := by
  induction data generalizing written with
  | nil => rfl
  | cons b data ih =>
    -- the first byte takes the last two places, so that the induction is on the text after them
    have hstep := putByte_run b (before ++ List.replicate (2 * data.length) '?') written
    have hfill : List.replicate (2 * (data.length + 1)) '?' =
        List.replicate (2 * data.length) '?' ++ ['?', '?'] := by
      rw [Nat.mul_succ, List.replicate_add]
      rfl
    have hlength : before.length + 2 * (data.length + 1) =
        (before ++ List.replicate (2 * data.length) '?').length + 2 := by
      simp
      omega
    have hnext := ih (hexDigit (b.toNat / 16) :: hexDigit (b.toNat % 16) :: written)
    unfold HexCursor.putBytes
    rw [List.length_cons, hfill, hlength, renderedBytes_cons]
    simp only [List.append_assoc, List.cons_append, List.nil_append] at hstep ⊢
    rw [hstep, List.length_append, List.length_replicate]
    exact hnext

/-- What the string is filled with at first. -/
theorem initial_out (bytes : ℕ) (withPrefix : Bool) :
    (let out := List.replicate (bytes * 2 + if withPrefix then 2 else 0) '?'
      if withPrefix then (out.set 0 '0').set 1 'x' else out) =
      (if withPrefix then "0x".toList else []) ++ (List.replicate (2 * bytes) '?' ++ []) := by
  rw [List.append_nil, Nat.mul_comm]
  cases withPrefix with
  | true =>
    simp only [if_true, List.replicate_succ]
    rfl
  | false => rfl

/-- The text of some bytes, with or without the prefix. -/
theorem toHex_eq (data : List UInt8) (withPrefix : Bool) :
    toHex data withPrefix =
      .ok ((if withPrefix then "0x".toList else []) ++ renderedBytes data) := by
  have hout := initial_out data.length withPrefix
  have hrun := putBytes_run data (if withPrefix then "0x".toList else []) []
  unfold toHex
  simp only at hout ⊢
  rw [hout, List.length_append, List.append_nil, List.length_replicate]
  rw [List.append_nil, List.append_nil] at hrun
  rw [hrun]
  rfl

/-! ## The bytes of an integer -/

section Integers
variable {w : ℕ} {order : ByteOrder} {v v' : BitVec (8 * w)}

@[simp] theorem length_bytesOf (v : BitVec (8 * w)) : (bytesOf v).length = w := by
  simp [bytesOf]

@[simp] theorem length_stored (order : ByteOrder) (v : BitVec (8 * w)) :
    (order.stored v).length = w := by
  cases order <;> simp [ByteOrder.stored]

theorem toNat_lt_pow (v : BitVec (8 * w)) : v.toNat < 256 ^ w := by
  have := v.isLt
  rwa [pow_mul] at this

theorem lt_of_mem_map_toNat (data : List UInt8) : ∀ d ∈ data.map UInt8.toNat, d < 256 := by
  intro d hd
  obtain ⟨b, -, rfl⟩ := List.mem_map.mp hd
  exact b.toNat_lt

theorem bytesOf_eq_digitsAppend (v : BitVec (8 * w)) :
    (bytesOf v).map UInt8.toNat = digitsAppend 256 w v.toNat := by
  rw [digitsAppend_eq_places (by decide) (toNat_lt_pow v), bytesOf, List.map_map]
  refine List.map_congr_left fun i _ => ?_
  change (v.extractLsb' (8 * i) 8).toNat = _
  rw [BitVec.extractLsb'_toNat, Nat.shiftRight_eq_div_pow, pow_mul]
  rfl

theorem bytesOf_injective (h : bytesOf v = bytesOf v') : v = v' := by
  have hdigits : digitsAppend 256 w v.toNat = digitsAppend 256 w v'.toNat := by
    rw [← bytesOf_eq_digitsAppend, ← bytesOf_eq_digitsAppend, h]
  have hvalue := congrArg (ofDigits 256) hdigits
  rw [ofDigits_digitsAppend, ofDigits_digitsAppend] at hvalue
  exact BitVec.eq_of_toNat_eq hvalue

theorem stored_injective (h : order.stored v = order.stored v') : v = v' := by
  cases order with
  | little => exact bytesOf_injective h
  | big => exact bytesOf_injective (List.reverse_injective h)

/-- Read back, the text of some bytes is the number whose digits in base 256 they are. -/
theorem readHex_renderedBytes (data : List UInt8) :
    readHex ("0x".toList ++ renderedBytes data) = some (ofDigits 256 (data.map UInt8.toNat)) := by
  have hbytes : ∀ d ∈ data.map UInt8.toNat, d < 16 * 16 := lt_of_mem_map_toNat data
  change readHexDigits (renderedBytes data) = _
  rw [renderedBytes, readHexDigits_reverse (lt_of_mem_splitDigits hbytes), ofDigits_splitDigits]

/-- Bytes are determined by their text. -/
theorem renderedBytes_injective : Function.Injective renderedBytes := by
  intro data data' h
  have hlength : data.length = data'.length := by
    have := congrArg List.length h
    rw [length_renderedBytes, length_renderedBytes] at this
    omega
  have hvalue := congrArg (fun s => readHex ("0x".toList ++ s)) h
  simp only [readHex_renderedBytes, Option.some.injEq] at hvalue
  have hnats := ofDigits_inj_of_len_eq (by decide) (by simpa using hlength)
    (lt_of_mem_map_toNat data) (lt_of_mem_map_toNat data') hvalue
  exact List.map_injective_iff.mpr (fun _ _ => UInt8.toNat_inj.mp) hnats

theorem renderedBytes_bytesOf (v : BitVec (8 * w)) :
    renderedBytes (bytesOf v) = hexDigits (2 * w) v.toNat := by
  have hv : v.toNat < (16 * 16) ^ w := toNat_lt_pow v
  rw [renderedBytes, bytesOf_eq_digitsAppend, hexDigits]
  exact congrArg (fun ds => (ds.map hexDigit).reverse) (splitDigits_digitsAppend (by decide) hv)

theorem toHexOf_eq (order : ByteOrder) (v : BitVec (8 * w)) :
    toHexOf order v = .ok ("0x".toList ++ renderedBytes (order.stored v)) :=
  toHex_eq (order.stored v) true

/-! ## Faithful texts -/

/-- The text is the number in hexadecimal, it is read back as the number, and no other
integer of the type has it. -/
structure RendersFaithfully (order : ByteOrder) (v : BitVec (8 * w)) : Prop where
  rendered : toHexOf order v = .ok ("0x".toList ++ hexDigits (2 * w) v.toNat)
  readBack : ∀ s, toHexOf order v = .ok s → readHex s = some v.toNat
  distinct : ∀ v' : BitVec (8 * w), toHexOf order v' = toHexOf order v → v' = v

/-- Whatever the byte order, integers of one type have different texts. -/
theorem toHexOf_injective (h : toHexOf order v = toHexOf order v') : v = v' := by
  rw [toHexOf_eq, toHexOf_eq] at h
  have htext := List.append_cancel_left (Except.ok.inj h)
  exact stored_injective (renderedBytes_injective htext)

/-- The text of an integer is read back as the number whose bytes are those in memory. -/
theorem readHex_toHexOf (order : ByteOrder) (v : BitVec (8 * w)) :
    ∃ s, toHexOf order v = .ok s ∧ s.length = 2 + 2 * w ∧
      readHex s = some (ofDigits 256 ((order.stored v).map UInt8.toNat)) := by
  refine ⟨_, toHexOf_eq order v, ?_, readHex_renderedBytes _⟩
  rw [List.length_append, length_renderedBytes, length_stored]
  rfl

/-- A line of the log tells the handle and the name of the object that it is about. -/
theorem toString_injective {info info' : XrSdkLogObjectInfo} (hinfo : info.handle < 2 ^ 64)
    (hinfo' : info'.handle < 2 ^ 64) (h : info.toString order = info'.toString order) :
    info.handle = info'.handle ∧ info.name = info'.name := by
  obtain ⟨s, hs, hlength, -⟩ := readHex_toHexOf (w := 8) order (UInt64.ofNat info.handle).toBitVec
  obtain ⟨s', hs', hlength', -⟩ :=
    readHex_toHexOf (w := 8) order (UInt64.ofNat info'.handle).toBitVec
  unfold XrSdkLogObjectInfo.toString uint64ToHexString at h
  rw [hs, hs'] at h
  obtain ⟨htext, hname⟩ := List.append_inj (Except.ok.inj h) (hlength.trans hlength'.symm)
  constructor
  · have hvalue := toHexOf_injective (hs.trans (htext ▸ hs'.symm))
    have hnat := congrArg UInt64.toNat (UInt64.toBitVec_inj.mp hvalue)
    rwa [UInt64.toNat_ofNat_of_lt' hinfo, UInt64.toNat_ofNat_of_lt' hinfo'] at hnat
  · cases hn : info.name with
    | nil => cases hn' : info'.name <;> simp [hn, hn'] at hname ⊢
    | cons c name =>
      cases hn' : info'.name with
      | nil => simp [hn, hn'] at hname
      | cons c' name' => simpa [hn, hn'] using hname

/-- On a machine with the most significant byte first, the text of an integer is faithful
only if its bytes are the same in both directions. -/
theorem rendersFaithfully_iff (order : ByteOrder) (v : BitVec (8 * w)) :
    RendersFaithfully order v ↔ (order = .big → (bytesOf v).reverse = bytesOf v) := by
  constructor
  · rintro ⟨hrendered, -, -⟩ rfl
    rw [toHexOf_eq, ← renderedBytes_bytesOf] at hrendered
    exact renderedBytes_injective (List.append_cancel_left (Except.ok.inj hrendered))
  · intro h
    have hstored : order.stored v = bytesOf v := by
      cases order with
      | little => rfl
      | big => exact h rfl
    have hrendered : toHexOf order v = .ok ("0x".toList ++ hexDigits (2 * w) v.toNat) := by
      rw [toHexOf_eq, hstored, renderedBytes_bytesOf]
    refine ⟨hrendered, fun s hs => ?_, fun v' => toHexOf_injective⟩
    rw [toHexOf_eq, hstored] at hs
    rw [← Except.ok.inj hs, readHex_renderedBytes, bytesOf_eq_digitsAppend, ofDigits_digitsAppend]

example : uint64ToHexString .little 0x123456789abcdef0 = .ok "0x123456789abcdef0".toList := by
  decide

def ppc64 : Machine where
  defined m := m = .powerpc64 ∨ m = .powerpc
  armArch := 0
  riscvXlen := 0
  byteOrder := .big

theorem ppc64_not_rendersFaithfully :
    ppc64.xrArchAbi = some "ppc64".toList ∧
      uint32ToHexString ppc64.byteOrder 1 = .ok "0x01000000".toList ∧
      ¬ RendersFaithfully (w := 4) ppc64.byteOrder 1 := by
  have htext : uint32ToHexString ppc64.byteOrder 1 = .ok "0x01000000".toList := by decide
  refine ⟨by decide, htext, fun h => ?_⟩
  have h := h.readBack _ htext
  exact absurd h (by decide)

end Integers
end OpenXRSdk
