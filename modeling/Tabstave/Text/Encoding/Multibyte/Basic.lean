import Tabstave.Text.Encoding.Charset.Basic
import Tabstave.Text.Utf8

/-!
# Encodings in which the bytes of a character depend on the first one

A decoder reads a character at a time. It looks at the bytes that are left and answers with a
`Step`: so many bytes are read, so many mean nothing, or the character needs more bytes than there
are. The bytes may also change what the next ones mean, so a decoder has a state. `run` reads all
bytes by such a decoder.
-/

namespace Tabstave.Text

/-- What a decoder makes of the bytes in front of it. -/
inductive Step (σ : Type)
  /-- So many bytes are read as this text, and the next ones are read in this state. -/
  | read (size : Nat) (text : List Char) (state : σ)
  /-- So many bytes mean nothing. -/
  | illegal (size : Nat)
  /-- The bytes break off. -/
  | incomplete

namespace Multibyte

/-- A decoder, which answers for the first byte and those after it. -/
abbrev Decoder (σ : Type) :=
  σ → Nat → List UInt8 → Step σ

variable {σ : Type}

/-- Read bytes from a position on. -/
def run (decoder : Decoder σ) (state : σ) (position : Nat) : List UInt8 → Except Flaw (List Char)
  | [] => .ok []
  | byte :: rest =>
    match decoder state byte.toNat rest with
    | .read size text state =>
      (run decoder state (position + max size 1) (rest.drop (size - 1))).map (text ++ ·)
    | .illegal size => .error ⟨position, position + size, "illegal multibyte sequence"⟩
    | .incomplete =>
      .error ⟨position, position + 1 + rest.length, "incomplete multibyte sequence"⟩
termination_by bytes => bytes.length
decreasing_by simp only [List.length_drop, List.length_cons]; omega

/-- Read so many bytes as a text, if they mean one. -/
def Step.ofText? (size : Nat) (state : σ) : Option (List Char) → Step σ
  | some text => .read size text state
  | none => .illegal 1

/-- Read so many bytes as a character, if they mean one. -/
def Step.ofChar? (size : Nat) (state : σ) (c : Option Char) : Step σ :=
  Step.ofText? size state (c.map ([·]))

/-- A decoder without a state. -/
abbrev Plain :=
  Decoder Unit

/-- A decoder for bytes below 128 as they are in ASCII and for any other byte together with the
next. -/
def pairs (pair? : Nat → Nat → Option Char) : Plain
  | _, first, rest =>
    if first < 0x80 then .read 1 [Char.ofNat first] ()
    else
      match rest with
      | second :: _ => Step.ofChar? 2 () (pair? first second.toNat)
      | [] => .incomplete

/-- The row or cell that a byte of 128 or more stands for, or the other way round. -/
def flip (byte : Nat) : Nat :=
  byte ^^^ 0x80

end Multibyte

end Tabstave.Text
