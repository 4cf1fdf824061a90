import MetaParity.Model.Synthetic

/-! # Rows of tables

A token is its table and the low 24 bits of its row, so the tokens of a table ascend with their rows as long as 24 bits
hold them, and the tables lie one behind the other in the order of their codes. -/

namespace MetaParity

/-! ## Tables and rows of tokens -/

namespace Token

theorem toNat_raw_ofParts (table : UInt8) (row : UInt32) :
    (ofParts table row).raw.toNat = table.toNat * 0x1000000 + row.toNat % 0x1000000 := by
  have hmask : row.toNat &&& 0xffffff = row.toNat % 0x1000000 := Nat.and_two_pow_sub_one_eq_mod row.toNat 24
  have htable := table.toNat_lt
  have hshift : table.toNat <<< 24 % 0x100000000 = table.toNat <<< 24 := by
    rw [Nat.shiftLeft_eq]
    omega
  have hraw : (ofParts table row).raw.toNat = table.toNat <<< 24 ||| row.toNat &&& 0xffffff := by
    simp [ofParts, hshift]
  rw [hraw, hmask, ← Nat.shiftLeft_add_eq_or_of_lt (by omega), Nat.shiftLeft_eq]

theorem table_ofParts (table : UInt8) (row : UInt32) : (ofParts table row).table = table := by
  have hraw := toNat_raw_ofParts table row
  have htable := table.toNat_lt
  refine UInt8.toNat.inj ?_
  have hhigh : (ofParts table row).table.toNat = (ofParts table row).raw.toNat / 0x1000000 % 0x100 := by
    simp [Token.table, Nat.shiftRight_eq_div_pow]
  rw [hhigh]
  omega

theorem toNat_row (token : Token) : token.row.toNat = token.raw.toNat % 0x1000000 := by
  have hmask : token.raw.toNat &&& 0xffffff = token.raw.toNat % 0x1000000 :=
    Nat.and_two_pow_sub_one_eq_mod token.raw.toNat 24
  simp [row, hmask]

theorem isNil_eq_decide (token : Token) : token.isNil = decide (token.row.toNat = 0) := by
  rw [isNil, Bool.eq_iff_iff, beq_iff_eq, decide_eq_true_iff, ← UInt32.toNat_inj]
  rfl

end Token

namespace Model

variable {table table' : Table} {row row' : Nat}

theorem toNat_raw_rowToken (table : Table) (h : row < 0x1000000) :
    (rowToken table row).raw.toNat = table.code.toNat * 0x1000000 + row := by
  have hrow : (UInt32.ofNat row).toNat = row := UInt32.toNat_ofNat_of_lt' (Nat.lt_trans h (by decide))
  rw [rowToken, Table.token, Token.toNat_raw_ofParts, hrow, Nat.mod_eq_of_lt h]

@[simp] theorem table_rowToken (table : Table) (row : Nat) : (rowToken table row).table = table.code :=
  Token.table_ofParts ..

theorem toNat_row_rowToken (table : Table) (h : row < 0x1000000) : (rowToken table row).row.toNat = row := by
  rw [Token.toNat_row, toNat_raw_rowToken table h]
  omega

theorem isNil_rowToken (table : Table) (h : row < 0x1000000) : (rowToken table row).isNil = decide (row = 0) := by
  rw [Token.isNil_eq_decide, toNat_row_rowToken table h]

/-- Tokens ascend by their tables, and within a table by their rows. -/
theorem rowToken_lt (h : row < 0x1000000) (h' : row' < 0x1000000)
    (hlt : table.code < table'.code ∨ table = table' ∧ row < row') :
    (rowToken table row).raw < (rowToken table' row').raw := by
  rw [UInt32.lt_iff_toNat_lt, toNat_raw_rowToken table h, toNat_raw_rowToken table' h']
  rcases hlt with hcode | ⟨rfl, hrow⟩
  · have hcode := UInt8.lt_iff_toNat_lt.mp hcode
    omega
  · omega

end Model

/-! ## Rows in blocks -/

/-- Blocks of one length, numbered one behind the other. -/
theorem range_flatMap_range (n m : Nat) :
    ((List.range n).flatMap fun i => (List.range m).map (i * m + ·)) = List.range (n * m) := by
  induction n with
  | zero => simp
  | succ n ih =>
      rw [List.range_succ, List.flatMap_append, ih, List.flatMap_singleton, Nat.succ_mul, List.range_add]

end MetaParity
