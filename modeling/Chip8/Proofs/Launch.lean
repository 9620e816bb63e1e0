/-
# Chip8.Proofs.Launch -- what a request to run comes to

A request is granted if its frame rate is positive, its program file can be read and the program
fits; the first of these that fails is what is reported.  The machine that then runs is built in
steps of its own (switched on, reset, loaded from the file), and is the one that would have been
switched on with the program in memory, its place in the random stream included.

* `IsPositive`: a number above zero, by its bits; `zero_lt_iff_isPositive`: the comparison with
  zero says just that, so it fails at both zeros, below them, and where there is no number;
* `launch_unpaced`, `launch_unread`, `launch_oversized`, `launch_loaded`: the four outcomes;
* `start_up`: all of it.
-/
import Chip8.CommandLine.Launch
import Chip8.Proofs.Failure

namespace Chip8.CommandLine

open Float.Model

set_option autoImplicit false

/-! ## Positive numbers -/

/-- A number above zero: it is one, its sign bit is clear, and it is not zero. -/
structure IsPositive (x : Float) : Prop where
  isNumber : x.isNaN = false
  unsigned : x.toBits < 0x8000000000000000
  nonzero : x.toBits ≠ 0

def sign? : UnpackedFloat → Option UnpackedFloat.Sign
  | .notANumber => none
  | .infinity sign | .zero sign | .finite sign _ _ _ => some sign

/-- Zero is below what has the sign of a positive number and is no zero itself. -/
theorem zero_lt_iff_sign (u : UnpackedFloat) :
    UnpackedFloat.lt (.zero .positive) u = true ↔
      sign? u = some .positive ∧ u ≠ .zero .positive := by
  cases u with
  | notANumber => exact iff_of_false Bool.false_ne_true fun parts => nomatch parts.1
  | zero sign =>
      refine iff_of_false (by cases sign <;> exact Bool.false_ne_true) fun parts => parts.2 ?_
      exact congrArg _ (Option.some.inj parts.1)
  | infinity sign | finite sign =>
      cases sign with
      | positive => exact iff_of_true rfl ⟨rfl, nofun⟩
      | negative => exact iff_of_false Bool.false_ne_true fun parts => nomatch parts.1

section

variable {format : Format} {bits : BitVec format.numBits} {sign : UnpackedFloat.Sign}

/-- What a word of bits stands for, by its exponent and its mantissa.  Its sign is its first bit
in any case, if it has one. -/
theorem unpack_cases (format : Format) (bits : BitVec format.numBits) :
    let word := UnpackedFloat.unpack format bits
    let sign := UnpackedFloat.Sign.ofBitVec (UnpackedFloat.unpackSign bits)
    (UnpackedFloat.unpackExponent bits = -1#(format.exponentBits) ∧
        (word = .infinity sign ∨ word = .notANumber)) ∨
      (UnpackedFloat.unpackExponent bits = 0#(format.exponentBits) ∧
        UnpackedFloat.unpackMantissa bits = 0#(format.mantissaBitsWithoutImplicit) ∧
        word = .zero sign) ∨
      (¬ (UnpackedFloat.unpackExponent bits = 0#(format.exponentBits) ∧
        UnpackedFloat.unpackMantissa bits = 0#(format.mantissaBitsWithoutImplicit)) ∧
        ∃ mantissa exponent positive, word = .finite sign mantissa exponent positive) := by
  intro word sign
  dsimp only [word, UnpackedFloat.unpack]
  by_cases full : UnpackedFloat.unpackExponent bits = -1#(format.exponentBits)
  · rw [if_pos full]
    refine .inl ⟨full, ?_⟩
    by_cases nothing :
        UnpackedFloat.unpackMantissa bits = 0#(format.mantissaBitsWithoutImplicit)
    · rw [if_pos nothing]
      exact .inl rfl
    · rw [if_neg nothing]
      exact .inr rfl
  · rw [if_neg full]
    by_cases small : UnpackedFloat.unpackExponent bits = 0#(format.exponentBits)
    · rw [if_pos small]
      by_cases nothing :
          UnpackedFloat.unpackMantissa bits = 0#(format.mantissaBitsWithoutImplicit)
      · rw [dif_pos nothing]
        exact .inr (.inl ⟨small, nothing, rfl⟩)
      · rw [dif_neg nothing]
        exact .inr (.inr ⟨fun parts => nothing parts.2, _, _, _, rfl⟩)
    · rw [if_neg small]
      exact .inr (.inr ⟨fun parts => small parts.1, _, _, _, rfl⟩)

theorem sign_of_sign?_unpack (known : sign? (.unpack format bits) = some sign) :
    sign = .ofBitVec (UnpackedFloat.unpackSign bits) := by
  rcases unpack_cases format bits with
    ⟨-, infinite | undefined⟩ | ⟨-, -, zero⟩ | ⟨-, mantissa, exponent, positive, finite⟩
  · rw [infinite] at known
    exact (Option.some.inj known).symm
  · rw [undefined] at known
    cases known
  · rw [zero] at known
    exact (Option.some.inj known).symm
  · rw [finite] at known
    exact (Option.some.inj known).symm

/-- A word of bits is a zero exactly if its exponent and its mantissa are. -/
theorem unpack_eq_zero_iff_parts (wide : -1#(format.exponentBits) ≠ 0#(format.exponentBits)) :
    .unpack format bits = UnpackedFloat.zero sign ↔
      (UnpackedFloat.unpackExponent bits = 0#(format.exponentBits) ∧
        UnpackedFloat.unpackMantissa bits = 0#(format.mantissaBitsWithoutImplicit)) ∧
        sign = .ofBitVec (UnpackedFloat.unpackSign bits) := by
  rcases unpack_cases format bits with
    ⟨full, infinite | undefined⟩ | ⟨small, nothing, zero⟩ |
      ⟨other, mantissa, exponent, positive, finite⟩
  · rw [infinite]
    exact iff_of_false nofun fun parts => wide (full.symm.trans parts.1.1)
  · rw [undefined]
    exact iff_of_false nofun fun parts => wide (full.symm.trans parts.1.1)
  · rw [zero]
    refine ⟨fun same => ?_, fun parts => congrArg _ parts.2.symm⟩
    cases same
    exact ⟨⟨small, nothing⟩, rfl⟩
  · rw [finite]
    exact iff_of_false nofun fun parts => other parts.1

end

variable {x : Float}

theorem unpackSign_eq_zero_iff :
    @UnpackedFloat.unpackSign .binary64 x.toBits.toBitVec = 0#1 ↔
      x.toBits < 0x8000000000000000 := by
  have size : x.toBits.toNat < 2 ^ 64 := x.toBits.toNat_lt
  have field : (@UnpackedFloat.unpackSign .binary64 x.toBits.toBitVec).toNat =
      x.toBits.toNat >>> 63 % 2 := BitVec.extractLsb_toNat 63 63 x.toBits.toBitVec
  rw [← BitVec.toNat_inj, field, Nat.shiftRight_eq_div_pow, UInt64.lt_iff_toNat_lt]
  show x.toBits.toNat / 2 ^ 63 % 2 = 0 ↔ x.toBits.toNat < 2 ^ 63
  omega

theorem unpackExponent_eq_zero_iff :
    @UnpackedFloat.unpackExponent .binary64 x.toBits.toBitVec = 0#11 ↔
      x.toBits.toNat / 0x10000000000000 % 2048 = 0 := by
  have field : (@UnpackedFloat.unpackExponent .binary64 x.toBits.toBitVec).toNat =
      x.toBits.toNat >>> 52 % 2048 := BitVec.extractLsb_toNat 62 52 x.toBits.toBitVec
  rw [← BitVec.toNat_inj, field, Nat.shiftRight_eq_div_pow]
  exact Iff.rfl

theorem unpackMantissa_eq_zero_iff :
    @UnpackedFloat.unpackMantissa .binary64 x.toBits.toBitVec = 0#52 ↔
      x.toBits.toNat % 0x10000000000000 = 0 := by
  have field : (@UnpackedFloat.unpackMantissa .binary64 x.toBits.toBitVec).toNat =
      x.toBits.toNat >>> 0 % 0x10000000000000 := BitVec.extractLsb_toNat 51 0 x.toBits.toBitVec
  rw [← BitVec.toNat_inj, field]
  exact Iff.rfl

theorem ofBitVec_eq_positive_iff {bit : BitVec 1} :
    UnpackedFloat.Sign.positive = .ofBitVec bit ↔ bit = 0#1 := by
  rw [UnpackedFloat.Sign.ofBitVec]
  split <;> simp [*]

theorem sign?_eq_positive_iff :
    sign? x.toModel.unpack = some .positive ↔
      x.isNaN = false ∧ x.toBits < 0x8000000000000000 := by
  have named {sign : UnpackedFloat.Sign} (known : sign? x.toModel.unpack = some sign) :
      sign = .ofBitVec (@UnpackedFloat.unpackSign .binary64 x.toBits.toBitVec) :=
    sign_of_sign?_unpack known
  rw [← unpackSign_eq_zero_iff, ← ofBitVec_eq_positive_iff]
  show _ ↔ x.toModel.unpack.isNaN = false ∧ _
  constructor
  · intro known
    refine ⟨?_, named known⟩
    cases unpacked : x.toModel.unpack with
    | notANumber =>
        rw [unpacked] at known
        cases known
    | infinity _ | zero _ | finite _ _ _ _ => rfl
  · rintro ⟨number, unsigned⟩
    cases unpacked : x.toModel.unpack with
    | notANumber =>
        rw [unpacked] at number
        cases number
    | infinity sign | zero sign | finite sign _ _ _ =>
        rw [unsigned]
        exact congrArg some (named (congrArg sign? unpacked))

theorem unpack_eq_zero_iff : x.toModel.unpack = .zero .positive ↔ x.toBits = 0 := by
  have wide : -1#(Format.exponentBits .binary64) ≠ 0#(Format.exponentBits .binary64) := by decide
  have parts := @unpack_eq_zero_iff_parts .binary64 x.toBits.toBitVec .positive wide
  have fields := and_congr (@unpackExponent_eq_zero_iff x) (@unpackMantissa_eq_zero_iff x)
  refine parts.trans ((and_congr_left' fields).trans ?_)
  rw [ofBitVec_eq_positive_iff, unpackSign_eq_zero_iff, UInt64.lt_iff_toNat_lt, ← UInt64.toNat_inj]
  show (x.toBits.toNat / 0x10000000000000 % 2048 = 0 ∧ x.toBits.toNat % 0x10000000000000 = 0) ∧
    x.toBits.toNat < 0x8000000000000000 ↔ x.toBits.toNat = 0
  omega

/-- **The comparison with zero tells the positive numbers.** -/
theorem zero_lt_iff_isPositive : 0.0 < x ↔ IsPositive x := by
  have zero : (0.0 : Float).toModel.unpack = .zero .positive := by rfl
  show decide (Float.Model.lt _ _ = true) = true ↔ _
  rw [decide_eq_true_eq, Float.Model.lt, zero, zero_lt_iff_sign, sign?_eq_positive_iff, Ne,
    unpack_eq_zero_iff]
  constructor
  · rintro ⟨⟨number, unsigned⟩, nonzero⟩
    exact ⟨number, unsigned, nonzero⟩
  · rintro ⟨number, unsigned, nonzero⟩
    exact ⟨⟨number, unsigned⟩, nonzero⟩

/-- Zero with a sign is no positive number either. -/
example : ¬ 0.0 < Float.ofBits 0x8000000000000000 := by decide

/-! ## The four outcomes -/

variable {o : Options} {drawn : UInt64} {content : Option (List UInt8)} {rom : List UInt8}

/-- Nothing was done to a machine that was only switched on, so a reset does nothing. -/
theorem reset_start (config : Config) : (Machine.start config drawn).reset = .start config drawn :=
  rfl

theorem launch_unpaced (slow : ¬ IsPositive o.fps) :
    o.launch drawn content = .error .fpsNotPositive := by
  rw [Options.launch, if_neg (mt zero_lt_iff_isPositive.1 slow)]

theorem launch_unread (paced : IsPositive o.fps) :
    o.launch drawn none = .error (.fault (.romUnreadable o.romPath)) := by
  rw [Options.launch, if_pos (zero_lt_iff_isPositive.2 paced)]
  rfl

theorem launch_oversized (paced : IsPositive o.fps) (long : 3584 < rom.length) :
    o.launch drawn (some rom) = .error (.fault (.romTooLarge rom.length)) := by
  have refused := (Machine.start o.config drawn).load_eq rom
  rw [maxRomSize, if_neg (Nat.not_le.2 long)] at refused
  rw [Options.launch, if_pos (zero_lt_iff_isPositive.2 paced), reset_start]
  simp only [Machine.loadFile, refused]

theorem boot_fits (config : Config) (fits : rom.length ≤ 3584) :
    (Machine.boot config drawn (some rom)).result = .ok () := by
  show ((Machine.start config drawn).load rom).result = .ok ()
  rw [Machine.load_eq, maxRomSize, if_pos fits]

theorem launch_loaded (paced : IsPositive o.fps) (fits : rom.length ≤ 3584) :
    o.launch drawn (some rom) = .ok (Machine.boot o.config drawn (some rom)).machine := by
  have loaded : ((Machine.start o.config drawn).load rom).result = .ok () := boot_fits _ fits
  rw [Options.launch, if_pos (zero_lt_iff_isPositive.2 paced), reset_start]
  simp only [Machine.loadFile, loaded]
  rfl

/-- **Start-up is exact.**  For every request to run and whatever reading the file gave: a
machine runs exactly if the frame rate is positive, there was something to read and it is at
most 3584 bytes.  It is then the machine switched on with the program, at the start of the
stream of its seed.  Otherwise the first of these that fails is the one reported. -/
theorem start_up (o : Options) (drawn : UInt64) (content : Option (List UInt8)) :
    let config : Config :=
      { keymap := .standard
        keyWait := if o.blockOnKeyWait then .block else .poll
        seed := o.seed
        inclusive := o.inclusiveRegisterTransfer }
    ((∃ m, o.launch drawn content = .ok m) ↔
        IsPositive o.fps ∧ ∃ rom, content = some rom ∧ rom.length ≤ 3584) ∧
      (∀ m, o.launch drawn content = .ok m → ∃ rom, content = some rom ∧
        (Machine.boot config drawn (some rom)).result = .ok () ∧
        m = (Machine.boot config drawn (some rom)).machine ∧
        m.random = .start (o.seed.getD drawn)) ∧
      ∀ error, o.launch drawn content = .error error ↔
        (¬ IsPositive o.fps ∧ error = .fpsNotPositive) ∨
          (IsPositive o.fps ∧ content = none ∧ error = .fault (.romUnreadable o.romPath)) ∨
          (IsPositive o.fps ∧ ∃ rom, content = some rom ∧ 3584 < rom.length ∧
            error = .fault (.romTooLarge rom.length)) := by
  intro config
  by_cases paced : IsPositive o.fps
  · cases content with
    | none => simp [launch_unread paced, paced, eq_comm]
    | some rom =>
        by_cases fits : rom.length ≤ 3584
        · have booted : (Machine.boot config drawn (some rom)).result = .ok () :=
            boot_fits config fits
          have place : (Machine.boot config drawn (some rom)).machine.random =
              .start (o.seed.getD drawn) := by
            show ((Machine.start config drawn).load rom).machine.random = _
            rw [Machine.load_eq, maxRomSize, if_pos fits]
            rfl
          have same : o.config = config := rfl
          rw [launch_loaded paced fits, same]
          refine ⟨⟨fun _ => ⟨paced, rom, rfl, fits⟩, fun _ => ⟨_, rfl⟩⟩, ?_, ?_⟩
          · rintro m running
            obtain rfl := Except.ok.inj running
            exact ⟨rom, rfl, booted, rfl, place⟩
          · simp [paced, fits]
        · have long : 3584 < rom.length := Nat.lt_of_not_le fits
          simp [launch_oversized paced long, paced, long, eq_comm]
  · simp [launch_unpaced paced, paced, eq_comm]

end Chip8.CommandLine
