import Tabstave.Text.Encoding.Basic

/-!
# What keeps bytes from being read

A name may be the name of no encoding that texts are written in (`IsNoEncoding`). If it is one,
bytes can have a flaw in that encoding, and a flaw has a position. Other faults are of the bytes as
a whole (`IsWholeFault`), and belong to single encodings: there is no byte order mark, or what was
read as ASCII does not stand for a text, or nothing is written in the encoding at all.
`failsOnBytes_decode` goes through the encodings and finds nothing else.
-/

namespace Tabstave.Text.Encoding

/-- Why a name is not the name of an encoding of texts. -/
inductive IsNoEncoding (name : String) : Fault → Prop
  | nul (nul : name.contains '\x00' = true) : IsNoEncoding name .nulInName
  /-- It names a way to turn bytes into bytes. -/
  | transform : IsNoEncoding name (.notATextEncoding name)
  | unknown : IsNoEncoding name (.unknownEncoding name)

/-- The faults of bytes in an encoding that are told without a position. -/
inductive IsWholeFault : Encoding → Fault → Prop
  | noMark16 : IsWholeFault (.utf16 none) (.noByteOrderMark "UTF-16")
  | noMark32 : IsWholeFault (.utf32 none) (.noByteOrderMark "UTF-32")
  | punycode (fault : LabelFault) : IsWholeFault .punycode (.label fault)
  | label (fault : LabelFault) : IsWholeFault .label (.label fault)
  | undefined : IsWholeFault .undefined .undefinedEncoding

/-- An encoding is not found for one of these reasons only. -/
theorem isNoEncoding_of_ofName {name : String} {fault : Fault}
    (failed : ofName name = .error fault) : IsNoEncoding name fault := by
  unfold ofName at failed
  dsimp only at failed
  split at failed
  · next nul => cases failed; exact .nul nul
  · split at failed
    · cases failed
    · split at failed
      · cases failed
      · split at failed <;> cases failed
        · exact .transform
        · exact .unknown

/-! ### Decoding -/

/-- If this fails, it is by a flaw or by a fault of bytes in the encoding as a whole. -/
def FailsOnBytes {α : Type} (encoding : Encoding) (result : Except Fault α) : Prop :=
  ∀ fault, result = .error fault → (∃ flaw, fault = .decode flaw) ∨ encoding.IsWholeFault fault

section FailsOnBytes

variable {α β : Type} {encoding : Encoding}

theorem failsOnBytes_ok (a : α) : FailsOnBytes encoding (.ok a) := by
  rintro fault ⟨⟩

theorem IsWholeFault.failsOnBytes {fault : Fault} (whole : encoding.IsWholeFault fault) :
    FailsOnBytes encoding (.error fault : Except Fault α) := by
  rintro _ ⟨⟩
  exact .inr whole

theorem failsOnBytes_faultOf (codec : String) (bytes : List UInt8) (result : Except Flaw α) :
    FailsOnBytes encoding (result.mapError (faultOf codec bytes)) := by
  cases result with
  | ok a => exact failsOnBytes_ok a
  | error flaw => rintro _ ⟨⟩; exact .inl ⟨_, rfl⟩

theorem failsOnBytes_label (whole : ∀ fault, encoding.IsWholeFault (.label fault))
    (result : Except LabelFault α) : FailsOnBytes encoding (result.mapError .label) := by
  cases result with
  | ok a => exact failsOnBytes_ok a
  | error fault => exact (whole fault).failsOnBytes

theorem FailsOnBytes.map {result : Except Fault α} (fails : FailsOnBytes encoding result)
    (f : α → β) : FailsOnBytes encoding (result.map f) := by
  cases result with
  | ok a => exact failsOnBytes_ok (f a)
  | error fault => rintro _ ⟨⟩; exact fails fault rfl

theorem FailsOnBytes.bind {first : Except Fault α} {next : α → Except Fault β}
    (fails : FailsOnBytes encoding first) (later : ∀ a, FailsOnBytes encoding (next a)) :
    FailsOnBytes encoding (first >>= next) := by
  cases first with
  | ok a => exact later a
  | error fault => rintro _ ⟨⟩; exact fails fault rfl

end FailsOnBytes

/-- A byte order mark is missed only where no order is given. -/
theorem failsOnBytes_decodeWide {encoding : Encoding} {order : Option Wide.ByteOrder}
    {mark : String} (noMark : order = none → encoding.IsWholeFault (.noByteOrderMark mark))
    (name : String) (shown : Option Wide.ByteOrder) (markSize : Nat)
    (decode : Wide.ByteOrder → Nat → List UInt8 → Except Flaw (List Char)) (bytes : List UInt8) :
    FailsOnBytes encoding (decodeWide name mark order shown markSize decode bytes) := by
  unfold decodeWide
  dsimp only
  split
  · exact failsOnBytes_faultOf _ _ _
  · exact failsOnBytes_faultOf _ _ _
  · refine FailsOnBytes.bind (failsOnBytes_faultOf _ _ _) fun text ↦ ?_
    split
    · exact failsOnBytes_ok text
    · exact (noMark rfl).failsOnBytes

theorem failsOnBytes_decodePunycode (bytes : List UInt8) :
    FailsOnBytes .punycode (decodePunycode bytes) :=
  FailsOnBytes.bind (failsOnBytes_faultOf _ _ _) fun _ ↦
    FailsOnBytes.bind (failsOnBytes_faultOf _ _ _) fun _ ↦ failsOnBytes_label .punycode _

theorem failsOnBytes_decodeLabels (bytes : List UInt8) :
    FailsOnBytes .label (decodeLabels bytes) := by
  refine FailsOnBytes.bind (failsOnBytes_faultOf _ _ _) fun name ↦ ?_
  split
  · exact failsOnBytes_ok []
  · exact failsOnBytes_label .label _

theorem failsOnBytes_decodeUtf8Mark (bytes : List UInt8) :
    FailsOnBytes .utf8Mark (decodeUtf8Mark bytes) := by
  unfold decodeUtf8Mark
  split
  · exact failsOnBytes_ok []
  · split <;> exact failsOnBytes_faultOf _ _ _

/-- **Bytes that cannot be decoded have a flaw at some position, or a fault as a whole.** -/
theorem failsOnBytes_decode (encoding : Encoding) (bytes : List UInt8) :
    FailsOnBytes encoding (encoding.decode bytes) := by
  cases encoding with
  | utf8Mark => exact (failsOnBytes_decodeUtf8Mark bytes).map codes
  | latin1 => exact failsOnBytes_ok _
  | utf16 order =>
    have noMark : order = none → IsWholeFault (.utf16 order) (.noByteOrderMark "UTF-16") := by
      rintro rfl
      exact .noMark16
    exact (failsOnBytes_decodeWide noMark _ _ _ _ bytes).map codes
  | utf32 order =>
    have noMark : order = none → IsWholeFault (.utf32 order) (.noByteOrderMark "UTF-32") := by
      rintro rfl
      exact .noMark32
    exact (failsOnBytes_decodeWide noMark _ _ _ _ bytes).map codes
  | punycode => exact failsOnBytes_decodePunycode bytes
  | label => exact failsOnBytes_decodeLabels bytes
  | undefined => exact IsWholeFault.undefined.failsOnBytes
  | utf8 | ascii | codePage | multibyte => exact (failsOnBytes_faultOf _ _ _).map codes
  | utf7 | escaped | rawEscaped => exact failsOnBytes_faultOf _ _ _

end Tabstave.Text.Encoding
