import RailLayout.Command.Basic

/-!
How commands are spelled in bytes. A layout is given a codec; all that it needs of one is here. A codec may
keep a memory of what it has written, as the table codec does, which gives each new command the next free slot.
-/

namespace RailLayout

/-- A way to spell commands, with a memory of type `σ`. -/
structure Codec (σ : Type) where
  /-- The bytes of a command, or why there are none, and the memory afterwards. -/
  encode : Command → σ → Except Error (List UInt8) × σ
  /-- The command that bytes spell. -/
  decode : σ → List UInt8 → Except Error Command

abbrev CommandTable := List Command

namespace CommandTable

def marker : UInt8 := 0xFE

def capacity : Nat := 65536

def spell (slot : Nat) : Except Error (List UInt8) :=
  if slot < capacity then .ok (marker :: [(slot / 256).toUInt8, slot.toUInt8])
  else .error (.codec .tableFull)

/-- Spell a command by its slot; a command without one gets the next. -/
def encode (c : Command) (table : CommandTable) : Except Error (List UInt8) × CommandTable :=
  match table.findIdx? (· == c) with
  | some slot => (spell slot, table)
  | none => (spell table.length, table ++ [c])

/-- The table of commands that were spelled one after the other. -/
def ofCommands (commands : List Command) : CommandTable :=
  commands.foldl (fun table c => (encode c table).2) []

/-- The command in the slot that bytes spell. -/
def decode (table : CommandTable) (bytes : List UInt8) : Except Error Command :=
  match bytes with
  | [first, high, low] =>
    if first = marker then
      match table[high.toNat * 256 + low.toNat]? with
      | some c => .ok c
      | none => .error (.codec (.unknownSlot high low))
    else .error (.codec (.unreadable bytes))
  | _ => .error (.codec (.unreadable bytes))

def codec : Codec CommandTable := ⟨encode, decode⟩

end CommandTable
end RailLayout
