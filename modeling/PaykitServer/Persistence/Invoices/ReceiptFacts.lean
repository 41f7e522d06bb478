import PaykitServer.Envelopes
import PaykitServer.Numeric.Varint
import PaykitServer.Persistence.Database
import PaykitServer.Server

/-!
# The stored facts of a USDT receipt

The facts of a verified transfer are written in the postcard format: the identity behind
its length, the amount as a number of variable length, the time as its own crate writes
it. Newer envelopes append the 20 bytes of the attested sender. The facts tell where they
end, so the sender is there exactly when something follows them.

The time crate writes the nine components of a date with its offset, each as postcard
writes its type.
-/

namespace PaykitServer.Persistence.ReceiptFacts

open Numeric Relational

/-- How the time crate writes an instant in a binary format and reads it back. -/
structure TimeCodec (τ : Type) where
  encode : τ → List UInt8
  take : List UInt8 → Option (τ × List UInt8)
  take_encode : ∀ time rest, take (encode time ++ rest) = some (time, rest)

structure StoredFacts (τ : Type) where
  identity : Text
  amount : BitVec 64
  timestamp : τ

/-- An account address. -/
abbrev Sender := { bytes : List UInt8 // bytes.length = 20 }

variable {τ : Type} (time : TimeCodec τ)

def encodeText (text : Text) : List UInt8 := varint 9 (utf8 text.val).length ++ utf8 text.val

def takeText (bytes : List UInt8) : Option (Text × List UInt8) := do
  let (length, rest) ← takeVarint 1 9 bytes
  let text ← if length ≤ rest.length then String.fromUTF8? (rest.take length).toByteArray else none
  if fits : (utf8 text).length < 2 ^ 64 then return (⟨text, fits⟩, rest.drop length) else none

def encodeFacts (facts : StoredFacts τ) : List UInt8 :=
  encodeText facts.identity ++ (varint 9 facts.amount.toNat ++ time.encode facts.timestamp)

/-- `postcard::take_from_bytes`: the facts and what follows them. -/
def takeFacts (bytes : List UInt8) : Option (StoredFacts τ × List UInt8) := do
  let (identity, rest) ← takeText bytes
  let (amount, rest) ← takeVarint 1 9 rest
  let (timestamp, rest) ← time.take rest
  return (⟨identity, BitVec.ofNat 64 amount, timestamp⟩, rest)

/-- The facts, followed by the sender of a verified refresh. -/
def encodeReceipt (facts : StoredFacts τ) (sender : Option Sender) : List UInt8 :=
  encodeFacts time facts ++ sender.elim [] Subtype.val

def decodeReceipt (plaintext : List UInt8) : Option (StoredFacts τ × Option Sender) := do
  let (facts, suffix) ← takeFacts time plaintext
  if suffix = [] then return (facts, none)
  else if fits : suffix.length = 20 then return (facts, some ⟨suffix, fits⟩)
  else none

/-- The facts of an invoice's receipt row. -/
def transferFacts (aead : Aead) (crypto : Crypto) (context : EnvelopeContext)
    (envelope : List UInt8) (identityHash : LookupHash) :
    Except PersistenceError (StoredFacts τ × Option Sender) := do
  let plaintext ← demand .corruptOrMissing (decrypt aead context envelope).toOption
  let (facts, sender) ← demand .corruptOrMissing (decodeReceipt time plaintext)
  ensure (identityHash = crypto.usdtTransferLookupHash facts.identity.val) .corruptOrMissing
  return (facts, sender)

/-- The facts of a Marketplace receipt row, whose confirmations are checked as well. -/
def usdtFacts (aead : Aead) (crypto : Crypto) (context : EnvelopeContext)
    (envelope : List UInt8) (identityHash : LookupHash) (confirmations : Int) :
    Except PersistenceError (StoredFacts τ × Option Sender) := do
  let decoded ← transferFacts time aead crypto context envelope identityHash
  ensure (0 ≤ confirmations) .corruptOrMissing
  return decoded

section Decoding

theorem takeText_encodeText (text : Text) (rest : List UInt8) :
    takeText (encodeText text ++ rest) = some (text, rest) := by
  have counted := @takeVarint_varint 1 9 _ (by decide) text.property
    (utf8 text.val ++ rest)
  have content : String.fromUTF8? (utf8 text.val).toByteArray = some text.val := by
    have same : (utf8 text.val).toByteArray = text.val.toByteArray := String.utf8Encode_toList
    rw [same, String.fromUTF8?, dif_pos text.val.isValidUTF8]
    rfl
  rw [takeText, encodeText, List.append_assoc, counted]
  simpa [content] using text.property

variable {time}

theorem takeFacts_encodeFacts (facts : StoredFacts τ) (rest : List UInt8) :
    takeFacts time (encodeFacts time facts ++ rest) = some (facts, rest) := by
  have amount := @takeVarint_varint 1 9 _ (by decide) facts.amount.isLt
    (time.encode facts.timestamp ++ rest)
  rw [takeFacts, encodeFacts, List.append_assoc, takeText_encodeText]
  simp only [Option.bind_eq_bind, Option.bind_some, List.append_assoc, amount, time.take_encode]
  simp

theorem decodeReceipt_encodeReceipt (facts : StoredFacts τ) (sender : Option Sender) :
    decodeReceipt time (encodeReceipt time facts sender) = some (facts, sender) := by
  rw [decodeReceipt, encodeReceipt, takeFacts_encodeFacts]
  cases sender with
  | none => rfl
  | some sender =>
    have nonempty : sender.val ≠ [] := by
      apply List.ne_nil_of_length_pos
      rw [sender.property]
      decide
    simp [nonempty, sender.property]

theorem decodeReceipt_ok {plaintext : List UInt8} {facts : StoredFacts τ} {sender : Option Sender}
    (decoded : decodeReceipt time plaintext = some (facts, sender)) :
    takeFacts time plaintext = some (facts, sender.elim [] Subtype.val) := by
  obtain ⟨⟨facts', suffix⟩, taken, decoded⟩ := Option.bind_eq_some_iff.mp decoded
  rw [taken]
  dsimp only at decoded
  split at decoded
  · rename_i nothing
    cases decoded
    rw [nothing]
    rfl
  · split at decoded
    · cases decoded
      rfl
    · cases decoded

end Decoding

/-- Stored receipt facts decode unambiguously. With or without a sender they are read back
as they were written, also through an envelope. A row of bytes is accepted only when
nothing or exactly 20 bytes follow the facts, which are then the sender, so that no row of
bytes stands for two values. -/
theorem receipt_facts_unambiguous (time : TimeCodec τ) :
    (∀ facts sender, decodeReceipt time (encodeReceipt time facts sender) = some (facts, sender)) ∧
    (∀ facts sender facts' sender',
      encodeReceipt time facts sender = encodeReceipt time facts' sender' →
        facts = facts' ∧ sender = sender') ∧
    (∀ plaintext facts sender, decodeReceipt time plaintext = some (facts, sender) →
      ∃ suffix, takeFacts time plaintext = some (facts, suffix) ∧
        (suffix = [] ∧ sender = none ∨
          suffix.length = 20 ∧ sender.map Subtype.val = some suffix)) ∧
    ∀ (aead : Aead) (crypto : Crypto) nonce context facts sender envelope (confirmations : Int),
      0 ≤ confirmations →
      aead.Authentic (wordBytes nonceLength nonce) context.associatedData
        (encodeReceipt time facts sender) context.associatedData →
      encrypt aead nonce context (encodeReceipt time facts sender) = .ok envelope →
        transferFacts time aead crypto context envelope
            (crypto.usdtTransferLookupHash facts.identity.val) = .ok (facts, sender) ∧
          usdtFacts time aead crypto context envelope
            (crypto.usdtTransferLookupHash facts.identity.val) confirmations =
              .ok (facts, sender) := by
  refine ⟨decodeReceipt_encodeReceipt, ?_, ?_, ?_⟩
  · intro facts sender facts' sender' same
    have read := congrArg (decodeReceipt time) same
    simpa [decodeReceipt_encodeReceipt] using read
  · intro plaintext facts sender decoded
    refine ⟨_, decodeReceipt_ok decoded, ?_⟩
    cases sender with
    | none => exact .inl ⟨rfl, rfl⟩
    | some sender => exact .inr ⟨sender.property, rfl⟩
  · intro aead crypto nonce context facts sender envelope confirmations counted authentic sealed
    have opened : decrypt aead context envelope = .ok (encodeReceipt time facts sender) :=
      (decrypt_encrypt sealed authentic _).mpr ⟨rfl, rfl⟩
    have read : transferFacts time aead crypto context envelope
        (crypto.usdtTransferLookupHash facts.identity.val) = .ok (facts, sender) := by
      rw [transferFacts, opened]
      refine bind_eq_ok.mpr ⟨_, demand_eq_ok.mpr rfl, ?_⟩
      refine bind_eq_ok.mpr ⟨_, demand_eq_ok.mpr (decodeReceipt_encodeReceipt facts sender), ?_⟩
      exact bind_eq_ok.mpr ⟨(), ensure_eq_ok.mpr rfl, rfl⟩
    refine ⟨read, bind_eq_ok.mpr ⟨_, read, ?_⟩⟩
    exact bind_eq_ok.mpr ⟨(), ensure_eq_ok.mpr counted, rfl⟩

section Times

def daysInYear (year : Int) : Nat :=
  if year % 4 = 0 ∧ (year % 100 ≠ 0 ∨ year % 400 = 0) then 366 else 365

/-- The components of an `OffsetDateTime`, as the time crate serializes them. -/
structure Components where
  year : Int
  ordinal : Nat
  hour : Nat
  minute : Nat
  second : Nat
  nanosecond : Nat
  offsetHours : Int
  offsetMinutes : Int
  offsetSeconds : Int
deriving DecidableEq

/-- The components of an instant with its offset; those of an offset have one sign. -/
structure Components.Valid (parts : Components) : Prop where
  year : -9999 ≤ parts.year ∧ parts.year ≤ 9999
  ordinal : 1 ≤ parts.ordinal ∧ parts.ordinal ≤ daysInYear parts.year
  clock : parts.hour < 24 ∧ parts.minute < 60 ∧ parts.second < 60 ∧ parts.nanosecond < 1000000000
  offset : parts.offsetHours.natAbs ≤ 25 ∧ parts.offsetMinutes.natAbs ≤ 59 ∧
    parts.offsetSeconds.natAbs ≤ 59
  sign : 0 ≤ parts.offsetHours * parts.offsetMinutes ∧
    0 ≤ parts.offsetHours * parts.offsetSeconds ∧ 0 ≤ parts.offsetMinutes * parts.offsetSeconds

instance (parts : Components) : Decidable parts.Valid :=
  decidable_of_iff
    ((-9999 ≤ parts.year ∧ parts.year ≤ 9999) ∧
      (1 ≤ parts.ordinal ∧ parts.ordinal ≤ daysInYear parts.year) ∧
      (parts.hour < 24 ∧ parts.minute < 60 ∧ parts.second < 60 ∧ parts.nanosecond < 1000000000) ∧
      (parts.offsetHours.natAbs ≤ 25 ∧ parts.offsetMinutes.natAbs ≤ 59 ∧
        parts.offsetSeconds.natAbs ≤ 59) ∧
      0 ≤ parts.offsetHours * parts.offsetMinutes ∧
      0 ≤ parts.offsetHours * parts.offsetSeconds ∧ 0 ≤ parts.offsetMinutes * parts.offsetSeconds)
    ⟨fun ⟨year, ordinal, clock, offset, sign⟩ => ⟨year, ordinal, clock, offset, sign⟩,
      fun valid => ⟨valid.year, valid.ordinal, valid.clock, valid.offset, valid.sign⟩⟩

/-- A component of an offset takes the sign of a greater one. -/
def aligned (greater value : Int) : Int := if greater * value < 0 then -value else value

def Components.encode (parts : Components) : List UInt8 :=
  varint 4 (zigzag parts.year) ++ (varint 2 parts.ordinal ++
    (parts.hour.toUInt8 :: parts.minute.toUInt8 :: parts.second.toUInt8 ::
      (varint 4 parts.nanosecond ++
        [signedByte parts.offsetHours, signedByte parts.offsetMinutes,
          signedByte parts.offsetSeconds])))

/-- Read an instant: its components must be in their ranges. -/
def takeComponents (bytes : List UInt8) :
    Option ({ parts : Components // parts.Valid } × List UInt8) := do
  let (year, rest) ← takeVarint 15 4 bytes
  let (ordinal, rest) ← takeVarint 3 2 rest
  let hour :: minute :: second :: rest := rest | none
  let (nanosecond, rest) ← takeVarint 15 4 rest
  let offsetHours :: offsetMinutes :: offsetSeconds :: rest := rest | none
  let hours := ofSignedByte offsetHours
  let minutes := aligned hours (ofSignedByte offsetMinutes)
  let parts : Components := ⟨unzigzag year, ordinal, hour.toNat, minute.toNat, second.toNat,
    nanosecond, hours, minutes, aligned minutes (aligned hours (ofSignedByte offsetSeconds))⟩
  if valid : parts.Valid then return (⟨parts, valid⟩, rest) else none

theorem aligned_of_nonneg {greater value : Int} (same : 0 ≤ greater * value) :
    aligned greater value = value := if_neg (by omega)

theorem takeComponents_encode (parts : { parts : Components // parts.Valid })
    (rest : List UInt8) : takeComponents (parts.val.encode ++ rest) = some (parts, rest) := by
  obtain ⟨⟨year, ordinal, hour, minute, second, nanosecond, hours, minutes, seconds⟩, valid⟩ := parts
  have ⟨years, days, clock, offset, sign⟩ := valid
  dsimp only at years days clock offset sign
  have short : daysInYear year ≤ 366 := by
    unfold daysInYear
    split <;> omega
  have zigzagged : zigzag year < (15 + 1) * 128 ^ 4 := by
    unfold zigzag
    split <;> omega
  have byte : ∀ {n : Nat}, n < 256 → n.toUInt8.toNat = n := fun small => Nat.mod_eq_of_lt small
  simp only [Components.encode, takeComponents, List.append_assoc, List.cons_append,
    List.nil_append, Option.bind_eq_bind, Option.bind_some,
    @takeVarint_varint 15 4 _ (by decide) zigzagged,
    @takeVarint_varint 3 2 ordinal (by decide) (by omega),
    @takeVarint_varint 15 4 nanosecond (by decide) (by omega),
    unzigzag_zigzag, byte (show hour < 256 by omega), byte (show minute < 256 by omega),
    byte (show second < 256 by omega),
    ofSignedByte_signedByte (n := hours) (by omega) (by omega),
    ofSignedByte_signedByte (n := minutes) (by omega) (by omega),
    ofSignedByte_signedByte (n := seconds) (by omega) (by omega),
    aligned_of_nonneg sign.1, aligned_of_nonneg sign.2.1, aligned_of_nonneg sign.2.2,
    dif_pos valid]
  rfl

/-- The codec of `OffsetDateTime` in a binary format. -/
def offsetDateTime : TimeCodec { parts : Components // parts.Valid } where
  encode parts := parts.val.encode
  take := takeComponents
  take_encode := takeComponents_encode

end Times

namespace Sample

/-- The second of January 2025 at 03:04:05 UTC. -/
def timestamp : { parts : Components // parts.Valid } :=
  ⟨⟨2025, 2, 3, 4, 5, 0, 0, 0, 0⟩, by decide⟩

def facts : StoredFacts { parts : Components // parts.Valid } :=
  ⟨⟨"42161:0x7:0", by decide +kernel⟩, 10, timestamp⟩

def sender : Sender := ⟨List.replicate 20 5, rfl⟩

/-- A tag over everything that is authenticated. -/
def tag (nonce aad plaintext : List UInt8) : List UInt8 :=
  bigEndian tagLength
    ((nonce ++ aad ++ plaintext).foldl (fun total byte => total * 257 + byte.toNat) 0)

/-- A cipher that tags and does not hide. -/
def aead : Aead where
  encrypt nonce aad plaintext := some (plaintext ++ tag nonce aad plaintext)
  decrypt nonce aad ciphertext :=
    let plaintext := ciphertext.take (ciphertext.length - tagLength)
    if ciphertext = plaintext ++ tag nonce aad plaintext then some plaintext else none

theorem aead_opens (nonce aad plaintext : List UInt8) :
    aead.Authentic nonce aad plaintext aad := by
  rintro _ ⟨⟩
  have size : (tag nonce aad plaintext).length = tagLength := length_bigEndian _ _
  have content : (plaintext ++ tag nonce aad plaintext).take
      ((plaintext ++ tag nonce aad plaintext).length - tagLength) = plaintext := by
    rw [List.length_append, size, Nat.add_sub_cancel, List.take_left]
  refine ⟨by rw [List.length_append, size]; exact Nat.le_add_left _ _, fun opened => ?_⟩
  simp only [aead, content, if_true, Option.some.injEq, true_and]
  exact eq_comm

def context : EnvelopeContext := ⟨.usdtObservation, 0, 1, some 2⟩

end Sample

-- The year as a signed number of variable length, then the day, the clock and the offset.
example : offsetDateTime.encode Sample.timestamp = [210, 31, 2, 3, 4, 5, 0, 0, 0, 0] := by decide

/-- The sample facts are read back without a sender and with one, also from an envelope. -/
theorem receipt_facts_read_back :
    decodeReceipt offsetDateTime (encodeReceipt offsetDateTime Sample.facts none) =
      some (Sample.facts, none) ∧
    decodeReceipt offsetDateTime (encodeReceipt offsetDateTime Sample.facts (some Sample.sender)) =
      some (Sample.facts, some Sample.sender) ∧
    ∃ envelope, encrypt Sample.aead 0 Sample.context
        (encodeReceipt offsetDateTime Sample.facts (some Sample.sender)) = .ok envelope ∧
      transferFacts offsetDateTime Sample.aead PaykitServer.Sample.environment.crypto Sample.context
        envelope (PaykitServer.Sample.environment.crypto.usdtTransferLookupHash "42161:0x7:0") =
          .ok (Sample.facts, some Sample.sender) := by
  obtain ⟨reads, -, -, opens⟩ := receipt_facts_unambiguous offsetDateTime
  exact ⟨reads _ _, reads _ _, _, rfl, (opens Sample.aead PaykitServer.Sample.environment.crypto 0
    Sample.context Sample.facts (some Sample.sender) _ 0 le_rfl (Sample.aead_opens _ _ _) rfl).1⟩

end PaykitServer.Persistence.ReceiptFacts
