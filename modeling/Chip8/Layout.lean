/-
The fixed sizes of the machine: where programs start, how much memory there
is, how many registers, and how large the screen and a sprite are.

Design notes: the types of the library (`Register`, `Memory`, `Column`, `Row`)
are written with the numbers themselves, which keeps them transparent to
arithmetic; the names below are for the rules.  Memory holds 4095 bytes and not
4096: the last address of the twelve-bit range is outside.
-/
namespace Chip8

/-- Address at which a program is loaded and started. -/
abbrev programStart : Nat := 0x200

/-- Number of bytes of memory; the addresses are 0x000 to 0xFFE. -/
abbrev memorySize : Nat := 4095

/-- The largest twelve-bit address. -/
abbrev addressMask : Nat := 0xFFF

/-- Number of general registers. -/
abbrev registerCount : Nat := 16

/-- Number of the register that a draw uses as its collision flag. -/
abbrev flagRegister : Fin 16 := 15

/-- Width of the screen in pixels. -/
abbrev screenWidth : Nat := 64

/-- Height of the screen in pixels. -/
abbrev screenHeight : Nat := 32

/-- Width of a sprite in pixels: one bit of a byte each. -/
abbrev spriteWidth : Nat := 8

/-- Number of the rows of the tallest sprite, less one. -/
abbrev lastSpriteRow : Nat := 15

end Chip8
