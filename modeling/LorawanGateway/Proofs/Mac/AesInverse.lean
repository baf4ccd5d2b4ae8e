import Mathlib.Data.Fintype.Card
import Mathlib.Data.FinEnum
import Mathlib.Data.Finite.Prod
import LorawanGateway.Mac.Aes

/-!
AES-128 is undone by its inverse cipher, and the other way round. Each stage of a round is undone by
its counterpart: the substitution octet by octet, the rows by turning them back, the columns by the
inverse matrix, which is checked for one octet at a time since products are linear in exclusive or.
A round key is undone by itself.
-/

namespace LorawanGateway

/-- A cipher whose two directions undo each other. -/
structure BlockCipher.Invertible (cipher : BlockCipher) : Prop where
  decrypt_encrypt : ∀ key block, cipher.decrypt key (cipher.encrypt key block) = block
  encrypt_decrypt : ∀ key block, cipher.encrypt key (cipher.decrypt key block) = block

namespace Aes

variable {state other : Block} {key : Key}

section Cells

theorem get_eq_getElem (state : Block) (index : Fin 16) : state.get index = state[index.val] := rfl

theorem cell_congr (state : Block) {column column' row row' : Nat}
    (columns : column % 4 = column' % 4) (rows : row % 4 = row' % 4) :
    cell state column row = cell state column' row' := by
  simp only [cell, columns, rows]

theorem ext_cell (same : ∀ column row, cell state column row = cell other column row) :
    state = other := by
  apply Vector.ext
  intro index inside
  have place : 4 * (index / 4 % 4) + index % 4 = index := by omega
  have octet := same (index / 4) (index % 4)
  simpa only [cell, get_eq_getElem, Nat.mod_mod, place] using octet

theorem cell_build (octetAt : Nat → Nat → UInt8) (column row : Nat) :
    cell (build octetAt) column row = octetAt (column % 4) (row % 4) := by
  have first : (4 * (column % 4) + row % 4) / 4 = column % 4 := by omega
  have second : (4 * (column % 4) + row % 4) % 4 = row % 4 := by omega
  rw [cell, build, get_eq_getElem, Vector.getElem_ofFn, first, second]

theorem cell_xor (column row : Nat) : cell (Block.xor state other) column row =
    cell state column row ^^^ cell other column row := by
  simp only [cell, get_eq_getElem, Block.xor, Vector.getElem_zipWith]

theorem cell_substitute (table : Array UInt8) (column row : Nat) :
    cell (substitute table state) column row =
      table.getD (cell state column row).toNat 0 := by
  simp only [cell, get_eq_getElem, substitute, Vector.getElem_map]

theorem cell_shiftRows (column row : Nat) :
    cell (shiftRows state) column row = cell state (column + row) row := by
  rw [shiftRows, cell_build]
  exact cell_congr state (by omega) (by omega)

theorem cell_unshiftRows (column row : Nat) :
    cell (unshiftRows state) column row = cell state (column + 4 - row % 4) row := by
  rw [unshiftRows, cell_build]
  exact cell_congr state (by omega) (by omega)

theorem cell_mixColumns (a b c d column row : Nat) :
    cell (mixColumns a b c d state) column row =
      times a (cell state column row) ^^^ times b (cell state column (row + 1)) ^^^
        times c (cell state column (row + 2)) ^^^ times d (cell state column (row + 3)) := by
  have turned (beyond : Nat) :
      cell state (column % 4) (row % 4 + beyond) = cell state column (row + beyond) :=
    cell_congr state (by omega) (by omega)
  rw [mixColumns, cell_build, turned 1, turned 2, turned 3]
  exact congrArg (times a · ^^^ _ ^^^ _ ^^^ _) (turned 0)

end Cells

section Products

variable {x y : UInt8}

/-- The highest bit of an octet brings in the polynomial. -/
def carry (top : Bool) : UInt8 := if top then 0x1B else 0

theorem double_eq (x : UInt8) : double x = (x <<< 1) ^^^ carry x.toBitVec.msb := by
  obtain ⟨⟨word⟩⟩ := x
  revert word
  decide +kernel

theorem carry_xor (first second : Bool) :
    carry (first ^^ second) = carry first ^^^ carry second := by
  cases first <;> cases second <;> decide

theorem double_xor (x y : UInt8) : double (x ^^^ y) = double x ^^^ double y := by
  rw [double_eq, double_eq, double_eq, UInt8.toBitVec_xor, BitVec.msb_xor, carry_xor,
    UInt8.shiftLeft_xor]
  ac_rfl

theorem ite_xor (taken : Prop) [Decidable taken] (x y : UInt8) :
    (if taken then x ^^^ y else 0) = (if taken then x else 0) ^^^ (if taken then y else 0) := by
  split
  · rfl
  · exact UInt8.xor_self.symm

theorem times_xor (factor : Nat) (x y : UInt8) :
    times factor (x ^^^ y) = times factor x ^^^ times factor y := by
  simp only [times, double_xor, ite_xor]
  ac_rfl

/-- The matrix that turns the row `e f g h` round undoes the one of the row `a b c d`. -/
def Undoes (e f g h a b c d : Nat) : Prop := ∀ x : UInt8,
  times e (times a x) ^^^ times f (times d x) ^^^ times g (times c x) ^^^ times h (times b x) = x ∧
  times e (times b x) ^^^ times f (times a x) ^^^ times g (times d x) ^^^ times h (times c x) = 0 ∧
  times e (times c x) ^^^ times f (times b x) ^^^ times g (times a x) ^^^ times h (times d x) = 0 ∧
  times e (times d x) ^^^ times f (times c x) ^^^ times g (times b x) ^^^ times h (times a x) = 0

theorem mixColumns_mixColumns {e f g h a b c d : Nat} (undoes : Undoes e f g h a b c d)
    (state : Block) : mixColumns e f g h (mixColumns a b c d state) = state := by
  refine ext_cell fun column row => ?_
  have turned (beyond : Nat) :
      cell state column (row + (4 + beyond)) = cell state column (row + beyond) :=
    cell_congr state rfl (by omega)
  obtain ⟨own, -⟩ := undoes (cell state column row)
  obtain ⟨-, first, -⟩ := undoes (cell state column (row + 1))
  obtain ⟨-, -, second, -⟩ := undoes (cell state column (row + 2))
  obtain ⟨-, -, -, third⟩ := undoes (cell state column (row + 3))
  simp only [cell_mixColumns, Nat.add_assoc, Nat.reduceAdd, times_xor]
  rw [turned 0, turned 1, turned 2, Nat.add_zero]
  generalize cell state column row = s₀ at own ⊢
  generalize cell state column (row + 1) = s₁ at first ⊢
  generalize cell state column (row + 2) = s₂ at second ⊢
  generalize cell state column (row + 3) = s₃ at third ⊢
  calc _ = (times e (times a s₀) ^^^ times f (times d s₀) ^^^ times g (times c s₀) ^^^
            times h (times b s₀)) ^^^
          (times e (times b s₁) ^^^ times f (times a s₁) ^^^ times g (times d s₁) ^^^
            times h (times c s₁)) ^^^
          (times e (times c s₂) ^^^ times f (times b s₂) ^^^ times g (times a s₂) ^^^
            times h (times d s₂)) ^^^
          (times e (times d s₃) ^^^ times f (times c s₃) ^^^ times g (times b s₃) ^^^
            times h (times a s₃)) := by ac_rfl
    _ = s₀ := by rw [own, first, second, third, UInt8.xor_zero, UInt8.xor_zero, UInt8.xor_zero]

theorem undoes_mix : Undoes 14 11 13 9 2 3 1 1 := by
  rintro ⟨⟨word⟩⟩
  revert word
  decide +kernel

theorem getD_toList (table : Array UInt8) (index : Nat) :
    table.getD index 0 = table.toList.getD index 0 := by
  simp

theorem substituted_back (octet : UInt8) :
    inverseSubstitution.getD (substitution.getD octet.toNat 0).toNat 0 = octet := by
  rw [getD_toList, getD_toList]
  obtain ⟨⟨word⟩⟩ := octet
  revert word
  decide +kernel

end Products

section Stages

theorem xor_xor (state mask : Block) : Block.xor (Block.xor state mask) mask = state := by
  refine ext_cell fun column row => ?_
  rw [cell_xor, cell_xor, UInt8.xor_assoc, UInt8.xor_self, UInt8.xor_zero]

theorem substitute_substitute (state : Block) :
    substitute inverseSubstitution (substitute substitution state) = state := by
  refine ext_cell fun column row => ?_
  rw [cell_substitute, cell_substitute, substituted_back]

theorem unshiftRows_shiftRows (state : Block) : unshiftRows (shiftRows state) = state := by
  refine ext_cell fun column row => ?_
  rw [cell_unshiftRows, cell_shiftRows]
  exact cell_congr state (by omega) rfl

/-- The part of a round that the last round has too. -/
def confuse (state : Block) : Block := shiftRows (substitute substitution state)

def unconfuse (state : Block) : Block := substitute inverseSubstitution (unshiftRows state)

theorem unconfuse_confuse (state : Block) : unconfuse (confuse state) = state := by
  rw [unconfuse, confuse, unshiftRows_shiftRows, substitute_substitute]

def round (state : Block) (key : Key) : Block :=
  Block.xor (mixColumns 2 3 1 1 (confuse state)) key

def unround (key : Key) (state : Block) : Block :=
  mixColumns 14 11 13 9 (Block.xor (unconfuse state) key)

theorem unround_confuse_round (state : Block) (key : Key) :
    unround key (confuse (round state key)) = confuse state := by
  rw [unround, unconfuse_confuse, round, xor_xor, mixColumns_mixColumns undoes_mix]

/-- The rounds are undone from the last to the first, each on what its successor left of it. -/
theorem foldr_unround (keys : List Key) (state : Block) :
    keys.foldr unround (confuse (keys.foldl round state)) = confuse state := by
  induction keys generalizing state with
  | nil => rfl
  | cons key keys induction =>
      rw [List.foldl_cons, List.foldr_cons, induction, unround_confuse_round]

theorem encrypt_eq (key : Key) (block : Block) : encrypt key block =
    Block.xor (confuse ((schedule key).2.1.foldl round (Block.xor block (schedule key).1)))
      (schedule key).2.2 :=
  rfl

theorem decrypt_eq (key : Key) (block : Block) : decrypt key block =
    Block.xor (unconfuse ((schedule key).2.1.foldr unround (Block.xor block (schedule key).2.2)))
      (schedule key).1 :=
  rfl

theorem decrypt_encrypt (key : Key) (block : Block) : decrypt key (encrypt key block) = block := by
  rw [decrypt_eq, encrypt_eq, xor_xor, foldr_unround, unconfuse_confuse, xor_xor]

end Stages

end Aes

/-- There are finitely many blocks, so what is undone in one direction is undone in both. -/
theorem BlockCipher.aes128_invertible : BlockCipher.aes128.Invertible where
  decrypt_encrypt := Aes.decrypt_encrypt
  encrypt_decrypt key := by
    have finite : Finite Block := by
      apply Finite.of_injective fun (block : Block) (index : Fin 16) => block.get index
      intro block other same
      exact Vector.ext fun index inside => congrFun same ⟨index, inside⟩
    have undone : Function.LeftInverse (Aes.decrypt key) (Aes.encrypt key) :=
      Aes.decrypt_encrypt key
    exact undone.rightInverse_of_surjective (Finite.injective_iff_surjective.mp undone.injective)

end LorawanGateway
