import GuestNic.Card.Event

/-!
# Blocks of guest memory

A block is found again where it was written, and no byte outside of it is touched. Addresses wrap
around, so a block may reach past the highest address and go on at the lowest.
-/

namespace GuestNic

namespace GuestMemory

/-! ## Blocks -/

/-- The address `a` is one of the `length` addresses from `start` on. -/
def IsWithin (start : UInt32) (length : Nat) (a : UInt32) : Prop :=
  ∃ i < length, a = start + i.toUInt32

theorem IsWithin.mono {start a : UInt32} {length more : Nat} (h : IsWithin start length a)
    (hle : length ≤ more) : IsWithin start more a := by
  obtain ⟨i, hi, ha⟩ := h
  exact ⟨i, Nat.lt_of_lt_of_le hi hle, ha⟩

/-- How far an address lies behind another one, as long as that is less than once around. -/
theorem toNat_offset (start : UInt32) {i : Nat} (hi : i < UInt32.size) :
    (start + i.toUInt32 - start).toNat = i := by
  rw [UInt32.add_comm, UInt32.add_sub_cancel]
  exact UInt32.toNat_ofNat_of_lt' hi

theorem isWithin_of_lt {start a : UInt32} {length : Nat} (h : (a - start).toNat < length) :
    IsWithin start length a := by
  refine ⟨(a - start).toNat, h, ?_⟩
  have hoffset : (a - start).toNat.toUInt32 = a - start := UInt32.ofNat_toNat
  rw [hoffset, UInt32.add_comm, UInt32.sub_add_cancel]

theorem isWithin_iff {start a : UInt32} {length : Nat} (hlen : length ≤ UInt32.size) :
    IsWithin start length a ↔ (a - start).toNat < length := by
  refine ⟨?_, isWithin_of_lt⟩
  rintro ⟨i, hi, rfl⟩
  rwa [toNat_offset start (Nat.lt_of_lt_of_le hi hlen)]

/-! ## Reading -/

variable {m m' : GuestMemory} {start a : UInt32} {data : Bytes}

theorem read_congr {length : Nat}
    (h : ∀ a, IsWithin start length a → m.byte a = m'.byte a) :
    m.read start length = m'.read start length := by
  refine List.map_congr_left ?_
  intro i hi
  exact h _ ⟨i, List.mem_range.1 hi, rfl⟩

/-- To begin later is to leave out the first bytes. -/
theorem read_add (m : GuestMemory) (start : UInt32) (k length : Nat) :
    m.read (start + k.toUInt32) length = (m.read start (k + length)).drop k := by
  rw [read, read, List.range_add, List.map_append, List.drop_left' (by simp), List.map_map]
  refine List.map_congr_left ?_
  intro i _
  have haddress : start + k.toUInt32 + i.toUInt32 = start + (k + i).toUInt32 := by
    rw [UInt32.add_assoc]
    exact congrArg (start + ·) (UInt32.ofNat_add k i).symm
  exact congrArg m.byte haddress

/-! ## Writing -/

theorem byte_write_of_not_isWithin (h : ¬ IsWithin start data.length a) :
    (m.write start data).byte a = m.byte a := by
  have hbeyond : data[(a - start).toNat]? = none := by
    rw [List.getElem?_eq_none_iff]
    exact Nat.le_of_not_lt fun hlt => h (isWithin_of_lt hlt)
  rw [byte_write, hbeyond]
  rfl

/-- A block is found again where it was written. -/
theorem read_write (hlen : data.length ≤ UInt32.size) :
    (m.write start data).read start data.length = data := by
  refine List.ext_getElem (by simp) ?_
  intro i hi hi'
  have hoffset := toNat_offset start (Nat.lt_of_lt_of_le hi' hlen)
  simp only [read, List.getElem_map, List.getElem_range, byte_write, hoffset,
    List.getElem?_eq_getElem hi']
  rfl

/-- What lies apart from a block is not touched by writing it. -/
theorem read_write_of_disjoint {other : UInt32} {length : Nat}
    (h : ∀ a, IsWithin other length a → ¬ IsWithin start data.length a) :
    (m.write start data).read other length = m.read other length :=
  read_congr fun a ha => byte_write_of_not_isWithin (h a ha)

end GuestMemory

/-! ## Events -/

namespace CardEvent

/-- The event does not write to guest memory. -/
def IsNoWrite (e : CardEvent) : Prop := ∀ address data, e ≠ .write address data

theorem applyTo_of_isNoWrite {e : CardEvent} (h : e.IsNoWrite) (m : GuestMemory) :
    e.applyTo m = m := by
  cases e with
  | write address data => exact absurd rfl (h address data)
  | interrupt | read | enter | tunnelFrame | alert => rfl

theorem foldl_applyTo_of_isNoWrite {events : List CardEvent} (h : ∀ e ∈ events, e.IsNoWrite)
    (m : GuestMemory) : events.foldl applyTo m = m := by
  induction events with
  | nil => rfl
  | cons e events ih =>
    rw [List.foldl_cons, applyTo_of_isNoWrite (h e List.mem_cons_self)]
    exact ih fun e he => h e (List.mem_cons_of_mem _ he)

end CardEvent
end GuestNic
