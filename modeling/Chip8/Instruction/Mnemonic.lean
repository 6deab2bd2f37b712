import Chip8.Instruction
import Chip8.Text.Hex

/-!
Contract: how an instruction is written.

Owns: `Instruction.mnemonic`, its line of assembler text, and `Instruction.tag`, the name of its
variant. The text shows every operand the instruction has, and nothing else.
-/

namespace Chip8.Instruction

def registerText (register : Register) : String :=
  "V" ++ Hex.padded 1 register.val

def byteText (byte : UInt8) : String :=
  "0x" ++ Hex.padded 2 byte.toNat

def addressText (address : Address) : String :=
  "0x" ++ Hex.padded 3 address.val

def mnemonic : Instruction → String
  | .clear => "CLS"
  | .ret => "RET"
  | .jump target => "JP " ++ addressText target
  | .call target => "CALL " ++ addressText target
  | .skipIfByte x byte => "SE " ++ registerText x ++ ", " ++ byteText byte
  | .skipUnlessByte x byte => "SNE " ++ registerText x ++ ", " ++ byteText byte
  | .skipIfSame x y => "SE " ++ registerText x ++ ", " ++ registerText y
  | .setByte x byte => "LD " ++ registerText x ++ ", " ++ byteText byte
  | .addByte x byte => "ADD " ++ registerText x ++ ", " ++ byteText byte
  | .copy x y => "LD " ++ registerText x ++ ", " ++ registerText y
  | .or x y => "OR " ++ registerText x ++ ", " ++ registerText y
  | .and x y => "AND " ++ registerText x ++ ", " ++ registerText y
  | .xor x y => "XOR " ++ registerText x ++ ", " ++ registerText y
  | .add x y => "ADD " ++ registerText x ++ ", " ++ registerText y
  | .sub x y => "SUB " ++ registerText x ++ ", " ++ registerText y
  | .shiftRight x => "SHR " ++ registerText x
  | .subFrom x y => "SUBN " ++ registerText x ++ ", " ++ registerText y
  | .shiftLeft x => "SHL " ++ registerText x
  | .skipUnlessSame x y => "SNE " ++ registerText x ++ ", " ++ registerText y
  | .setIndex address => "LD I, " ++ addressText address
  | .jumpOffset address => "JP V0, " ++ addressText address
  | .random x mask => "RND " ++ registerText x ++ ", " ++ byteText mask
  | .draw x y height =>
    "DRW " ++ registerText x ++ ", " ++ registerText y ++ ", 0x" ++ Hex.padded 1 height.val
  | .skipIfKey x => "SKP " ++ registerText x
  | .skipUnlessKey x => "SKNP " ++ registerText x
  | .readDelay x => "LD " ++ registerText x ++ ", DT"
  | .awaitKey x => "LD " ++ registerText x ++ ", K"
  | .writeDelay x => "LD DT, " ++ registerText x
  | .writeSound x => "LD ST, " ++ registerText x
  | .addIndex x => "ADD I, " ++ registerText x
  | .glyph x => "LD F, " ++ registerText x
  | .decimal x => "LD B, " ++ registerText x
  | .saveRegisters x => "LD [I], " ++ registerText x
  | .loadRegisters x => "LD " ++ registerText x ++ ", [I]"
  | .unknown word => "??? 0x" ++ Hex.padded 4 word.toNat

def tag : Instruction → String
  | .clear => "CLS"
  | .ret => "RET"
  | .jump _ => "JP"
  | .call _ => "CALL"
  | .skipIfByte .. => "SE_BYTE"
  | .skipUnlessByte .. => "SNE_BYTE"
  | .skipIfSame .. => "SE_REG"
  | .setByte .. => "LD_BYTE"
  | .addByte .. => "ADD_BYTE"
  | .copy .. => "LD_REG"
  | .or .. => "OR"
  | .and .. => "AND"
  | .xor .. => "XOR"
  | .add .. => "ADD_REG"
  | .sub .. => "SUB"
  | .shiftRight _ => "SHR"
  | .subFrom .. => "SUBN"
  | .shiftLeft _ => "SHL"
  | .skipUnlessSame .. => "SNE_REG"
  | .setIndex _ => "LD_I"
  | .jumpOffset _ => "JP_V0"
  | .random .. => "RND"
  | .draw .. => "DRW"
  | .skipIfKey _ => "SKP"
  | .skipUnlessKey _ => "SKNP"
  | .readDelay _ => "LD_VX_DT"
  | .awaitKey _ => "LD_VX_K"
  | .writeDelay _ => "LD_DT_VX"
  | .writeSound _ => "LD_ST_VX"
  | .addIndex _ => "ADD_I"
  | .glyph _ => "LD_F"
  | .decimal _ => "LD_B"
  | .saveRegisters _ => "LD_MEM_VX"
  | .loadRegisters _ => "LD_VX_MEM"
  | .unknown _ => "UNKNOWN"

end Chip8.Instruction
