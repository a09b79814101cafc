import Mathlib.Data.Nat.Digits
import Breez.Btc.Wire

set_option autoImplicit false

namespace Breez.Chainservice

open Go Btc

inductive Network where
  | testNet3
  | simNet
  | mainNet
  deriving DecidableEq, Repr

def chainParams (network : String) : Except String Network :=
  match network with
  | "testnet" => .ok .testNet3
  | "simnet" => .ok .simNet
  | "mainnet" => .ok .mainNet
  | _ => .error ("Unrecognized network " ++ network)

inductive NumError where
  | errSyntax
  | errRange
  deriving DecidableEq, Repr

-- strconv.Quote for one byte; Go keeps a printable multi-byte UTF-8 rune as it is, where this
-- writes \x and two hex digits per byte.
def quoteByte (c : UInt8) : String :=
  let hex (d : Nat) : Char := Char.ofNat (if d < 10 then 48 + d else 87 + d)
  match c.toNat with
  | 34 => "\\\""
  | 92 => "\\\\"
  | 7 => "\\a"
  | 8 => "\\b"
  | 9 => "\\t"
  | 10 => "\\n"
  | 11 => "\\v"
  | 12 => "\\f"
  | 13 => "\\r"
  | n => if 32 ≤ n ∧ n ≤ 126 then (Char.ofNat n).toString
    else ⟨['\\', 'x', hex (n / 16), hex (n % 16)]⟩

def quote (s : Bytes) : String :=
  "\"" ++ String.join (s.map quoteByte) ++ "\""

def NumError.text (s : Bytes) : NumError → String
  | .errSyntax => "strconv.ParseUint: parsing " ++ quote s ++ ": invalid syntax"
  | .errRange => "strconv.ParseUint: parsing " ++ quote s ++ ": value out of range"

def isDecimalDigit (c : UInt8) : Bool :=
  decide (48 ≤ c.toNat ∧ c.toNat ≤ 57)

def cutoff : Nat := (2 ^ 64 - 1) / 10 + 1

-- A letter has a digit value of 10 or more, not below the base, so every byte but a decimal
-- digit is a syntax error.
def parseDigits (maxVal : Nat) : Bytes → Nat → Except NumError Nat
  | [], n => .ok n
  | c :: rest, n =>
    if !isDecimalDigit c then .error .errSyntax
    else if cutoff ≤ n then .error .errRange
    else
      let n1 := (n * 10 + (c.toNat - 48)) % 2 ^ 64
      if n1 < n * 10 ∨ maxVal < n1 then .error .errRange
      else parseDigits maxVal rest n1

def parseUint (s : Bytes) (bitSize : Nat) : Except NumError Nat :=
  if s = [] then .error .errSyntax else parseDigits (2 ^ bitSize - 1) s 0

structure FilterHeader where
  headerHash : Bytes32
  filterHash : Bytes32
  height : UInt32
  deriving DecidableEq

def zeroHash : Bytes32 := ⟨List.replicate 32 0, rfl⟩

-- 58 is ':'.
def parseAssertFilterHeader (headerStr : Bytes) : Outcome (Option FilterHeader) :=
  if headerStr = [] then .ok none
  else do
    let heightAndHash := headerStr.splitOn 58
    let heightStr ← index heightAndHash 0
    let height ← Outcome.ofExceptWith ("invalid filter header height: " ++ ·)
      ((parseUint heightStr 32).mapError (NumError.text heightStr))
    let hashStr ← index heightAndHash 1
    let hash ← Outcome.ofExceptWith ("invalid filter header hash: " ++ ·) (newHashFromStr hashStr)
    pure (some ⟨zeroHash, hash, UInt32.ofNat height⟩)

def decimalFrom (n : Nat) (s : Bytes) : Nat :=
  s.foldl (fun n c => 10 * n + (c.toNat - 48)) n

@[simp] theorem decimalFrom_nil (n : Nat) : decimalFrom n [] = n := rfl

@[simp] theorem decimalFrom_cons (n : Nat) (c : UInt8) (rest : Bytes) :
    decimalFrom n (c :: rest) = decimalFrom (10 * n + (c.toNat - 48)) rest := rfl

theorem le_decimalFrom (n : Nat) (s : Bytes) : n ≤ decimalFrom n s := by
  induction s generalizing n with
  | nil => exact le_refl n
  | cons c rest ih => exact le_trans (by omega) (ih (10 * n + (c.toNat - 48)))

theorem parseDigits_eq_ok (s : Bytes) (n m : Nat) (fits : n ≤ 2 ^ 32 - 1) :
    parseDigits (2 ^ 32 - 1) s n = .ok m ↔
      s.all isDecimalDigit ∧ decimalFrom n s ≤ 2 ^ 32 - 1 ∧ m = decimalFrom n s := by
  induction s generalizing n with
  | nil =>
    simp only [parseDigits, decimalFrom_nil, List.all_nil, Except.ok.injEq, true_and]
    omega
  | cons c rest ih =>
    by_cases digit : isDecimalDigit c = true
    · have small : c.toNat ≤ 57 := by simp [isDecimalDigit] at digit; omega
      have next : (n * 10 + (c.toNat - 48)) % 2 ^ 64 = 10 * n + (c.toNat - 48) := by
        rw [Nat.mod_eq_of_lt (by omega), Nat.mul_comm]
      have below : ¬cutoff ≤ n := by simp only [cutoff]; omega
      simp only [parseDigits, digit, Bool.not_true, Bool.false_eq_true, if_false, below, next]
      by_cases over : 2 ^ 32 - 1 < 10 * n + (c.toNat - 48)
      · have beyond := le_decimalFrom (10 * n + (c.toNat - 48)) rest
        simp only [over, or_true, if_true, reduceCtorEq, false_iff]
        simp only [List.all_cons, digit, Bool.true_and, decimalFrom_cons]
        rintro ⟨-, fits, -⟩
        omega
      · have notLess : ¬10 * n + (c.toNat - 48) < n * 10 := by omega
        simp only [over, notLess, or_false, if_false]
        rw [ih _ (by omega)]
        simp [digit]
    · simp [parseDigits, digit]

theorem parseUint_eq_ok (s : Bytes) (n : Nat) :
    parseUint s 32 = .ok n ↔
      s ≠ [] ∧ s.all isDecimalDigit ∧ decimalFrom 0 s < 2 ^ 32 ∧ n = decimalFrom 0 s := by
  unfold parseUint
  split
  next empty => simp [empty]
  next nonEmpty =>
    rw [parseDigits_eq_ok s 0 n (by omega)]
    simp only [ne_eq, nonEmpty, not_false_eq_true, true_and]
    constructor <;> rintro ⟨digits, fits, rfl⟩ <;> exact ⟨digits, by omega, rfl⟩

theorem length_splitOn (s : Bytes) (sep : UInt8) : (s.splitOn sep).length = s.count sep + 1 := by
  induction s with
  | nil => rfl
  | cons c rest ih =>
    simp only [List.splitOn, List.splitOnP_cons, List.count_cons] at ih ⊢
    split <;> simp_all

theorem splitOn_eq_single_iff (s : Bytes) (segment : Bytes) :
    s.splitOn 58 = [segment] ↔ 58 ∉ s ∧ segment = s := by
  constructor
  · intro single
    have count := length_splitOn s 58
    have joined := List.intercalate_splitOn s 58
    rw [single] at count joined
    simp only [List.length_singleton, self_eq_add_left, List.count_eq_zero] at count
    exact ⟨count, by simpa [List.intercalate] using joined⟩
  · rintro ⟨absent, rfl⟩
    exact List.splitOnP_eq_single _ _ (fun c mem same => absent (beq_iff_eq.mp same ▸ mem))

theorem parseAssertFilterHeader_eq_some (s : Bytes) (header : FilterHeader) :
    parseAssertFilterHeader s = .ok (some header) ↔
      ∃ heightStr hashStr rest, s.splitOn 58 = heightStr :: hashStr :: rest ∧
        heightStr ≠ [] ∧ heightStr.all isDecimalDigit ∧ decimalFrom 0 heightStr < 2 ^ 32 ∧
        newHashFromStr hashStr = .ok header.filterHash ∧
        header = ⟨zeroHash, header.filterHash, UInt32.ofNat (decimalFrom 0 heightStr)⟩ := by
  unfold parseAssertFilterHeader
  split
  next empty =>
    subst empty
    simp
  next =>
    rcases parts : s.splitOn 58 with _ | ⟨heightStr, _ | ⟨hashStr, rest⟩⟩
    · exact absurd parts (List.splitOnP_ne_nil _ _)
    · simp [index, Outcome.bind_eq_ok]
    · simp only [index, List.getElem?_cons_zero, List.getElem?_cons_succ, Outcome.ok_bind,
        Outcome.bind_eq_ok, Outcome.ofExceptWith_eq_ok, except_mapError_eq_ok,
        parseUint_eq_ok, Outcome.pure_eq, Outcome.ok.injEq, Option.some.injEq, List.cons.injEq]
      constructor
      · rintro ⟨_, ⟨nonEmpty, digits, fits, rfl⟩, hash, found, rfl⟩
        exact ⟨_, _, _, ⟨rfl, rfl, rfl⟩, nonEmpty, digits, fits, found, rfl⟩
      · rintro ⟨_, _, _, ⟨rfl, rfl, rfl⟩, nonEmpty, digits, fits, found, same⟩
        exact ⟨_, ⟨nonEmpty, digits, fits, rfl⟩, _, found, same.symm⟩

theorem not_mem_of_all_digits (s : Bytes) (digits : s.all isDecimalDigit) : 58 ∉ s := by
  intro colon
  exact absurd (List.all_eq_true.mp digits 58 colon) (by decide)

theorem parseAssertFilterHeader_isPanic (s : Bytes) :
    (parseAssertFilterHeader s).isPanic = true ↔
      s ≠ [] ∧ s.all isDecimalDigit ∧ decimalFrom 0 s < 2 ^ 32 := by
  unfold parseAssertFilterHeader
  split
  next empty => simp [empty]
  next nonEmpty =>
    rcases parts : s.splitOn 58 with _ | ⟨heightStr, _ | ⟨hashStr, rest⟩⟩
    · exact absurd parts (List.splitOnP_ne_nil _ _)
    · obtain ⟨-, same⟩ := (splitOn_eq_single_iff s heightStr).mp parts
      subst same
      cases parsed : parseUint heightStr 32 with
      | ok height =>
        obtain ⟨-, digits, fits, -⟩ := (parseUint_eq_ok heightStr height).mp parsed
        simpa [index, parsed, nonEmpty, digits, Except.mapError] using fits
      | error e =>
        have rejected : ¬(heightStr.all isDecimalDigit ∧ decimalFrom 0 heightStr < 2 ^ 32) :=
          fun ⟨digits, fits⟩ => absurd ((parseUint_eq_ok heightStr _).mpr
            ⟨nonEmpty, digits, fits, rfl⟩) (by simp [parsed])
        simpa [index, parsed, nonEmpty, Except.mapError] using rejected
    · have colon : 58 ∈ s := by
        have count := length_splitOn s 58
        rw [parts] at count
        simp only [List.length_cons] at count
        exact List.count_pos_iff.mp (by omega)
      have notDigits : ¬s.all isDecimalDigit := fun digits => not_mem_of_all_digits s digits colon
      cases parsed : parseUint heightStr 32 <;> cases hashed : newHashFromStr hashStr <;>
        simp [index, parsed, hashed, notDigits, Except.mapError]

theorem parseAssertFilterHeader_no_colon_or_extra_segment :
    parseAssertFilterHeader (goBytes "0") = .panic (.indexOutOfRange 1 1) ∧
      parseAssertFilterHeader (goBytes "0::") = .ok (some ⟨zeroHash, zeroHash, 0⟩) :=
  ⟨rfl, rfl⟩

theorem decimalFrom_append (n : Nat) (xs ys : Bytes) :
    decimalFrom n (xs ++ ys) = decimalFrom (decimalFrom n xs) ys :=
  List.foldl_append _ _ _ _

theorem utf8EncodeChar_digitChar :
    ∀ k, k < 10 → String.utf8EncodeChar (Nat.digitChar k) = [UInt8.ofNat (48 + k)] := by
  decide

theorem digit_byte :
    ∀ k, k < 10 → isDecimalDigit (UInt8.ofNat (48 + k)) = true ∧ (UInt8.ofNat (48 + k)).toNat - 48 = k := by
  decide

theorem goBytes_toDigitsCore (fuel n : Nat) (ds : List Char) (enough : n < fuel) :
    ∃ digits, goBytes ⟨Nat.toDigitsCore 10 fuel n ds⟩ = digits ++ goBytes ⟨ds⟩ ∧ digits ≠ [] ∧
      digits.all isDecimalDigit ∧ decimalFrom 0 digits = n := by
  induction fuel generalizing n ds with
  | zero => omega
  | succ fuel ih =>
    have low := digit_byte (n % 10) (Nat.mod_lt _ (by omega))
    have encoded := utf8EncodeChar_digitChar (n % 10) (Nat.mod_lt _ (by omega))
    by_cases last : n / 10 = 0
    · refine ⟨[UInt8.ofNat (48 + n % 10)], ?_, List.cons_ne_nil _ _, by simp [low.1], ?_⟩
      · simp [Nat.toDigitsCore, last, goBytes, encoded]
      · simp only [decimalFrom_cons, decimalFrom_nil, low.2]
        omega
    · obtain ⟨digits, written, -, allDigits, value⟩ :=
        ih (n / 10) (Nat.digitChar (n % 10) :: ds) (by omega)
      refine ⟨digits ++ [UInt8.ofNat (48 + n % 10)], ?_, by simp, by simp [allDigits, low.1], ?_⟩
      · simp only [Nat.toDigitsCore, last, if_false]
        rw [written]
        simp [goBytes, encoded]
      · rw [decimalFrom_append, value, decimalFrom_cons, decimalFrom_nil, low.2]
        omega

theorem colon_not_mem_encodedBytes (src : Bytes) : 58 ∉ Hex.encodedBytes src := by
  have noColon : ∀ d, d < 16 → UInt8.ofNat (Hex.hexChar d).toNat ≠ 58 := by decide
  simp only [Hex.encodedBytes, List.mem_flatMap, List.mem_cons, List.mem_singleton, not_exists,
    not_and, List.not_mem_nil, or_false]
  intro v _
  have small : v.toNat < 256 := v.toNat_lt_size
  exact not_or.mpr ⟨(noColon _ (by omega)).symm, (noColon _ (Nat.mod_lt _ (by omega))).symm⟩

theorem parseAssertFilterHeader_hashString (height : UInt32) (filterHash : Bytes32) :
    parseAssertFilterHeader (goBytes (toString height ++ ":" ++ hashString filterHash)) =
      .ok (some ⟨zeroHash, filterHash, height⟩) := by
  obtain ⟨digits, written, nonEmpty, allDigits, value⟩ :=
    goBytes_toDigitsCore (height.toNat + 1) height.toNat [] (Nat.lt_succ_self _)
  have hex := Hex.goBytes_encodeToString filterHash.bytes.reverse
  have joined : goBytes (toString height ++ ":" ++ hashString filterHash) =
      [58].intercalate [digits, Hex.encodedBytes filterHash.bytes.reverse] := by
    rw [goBytes_append, goBytes_append, hashString, hex]
    change goBytes ⟨Nat.toDigitsCore 10 (height.toNat + 1) height.toNat []⟩ ++ [58] ++ _ = _
    rw [written]
    simp [goBytes, List.intercalate]
  have split : ([58].intercalate [digits, Hex.encodedBytes filterHash.bytes.reverse]).splitOn 58 =
      [digits, Hex.encodedBytes filterHash.bytes.reverse] :=
    List.splitOn_intercalate _ 58 (by
      simp only [List.mem_cons, List.mem_singleton, List.not_mem_nil, or_false]
      rintro l (rfl | rfl)
      · exact not_mem_of_all_digits l allDigits
      · exact colon_not_mem_encodedBytes _) (List.cons_ne_nil _ _)
  have parsed : parseUint digits 32 = .ok height.toNat :=
    (parseUint_eq_ok digits _).mpr ⟨nonEmpty, allDigits, value ▸ height.toNat_lt_size, value.symm⟩
  have hashed : newHashFromStr (Hex.encodedBytes filterHash.bytes.reverse) = .ok filterHash := by
    rw [← hex, ← hashString, newHashFromStr_hashString]
  have notEmpty : [58].intercalate [digits, Hex.encodedBytes filterHash.bytes.reverse] ≠ [] := by
    simp [List.intercalate, nonEmpty]
  rw [joined, parseAssertFilterHeader, if_neg notEmpty, split]
  have sameHeight : UInt32.ofNat height.toNat = height :=
    UInt32.toNat.inj (UInt32.toNat_ofNat_of_lt height.toNat_lt_size)
  simp [index, parsed, hashed, Except.mapError, sameHeight]

end Breez.Chainservice
