import PaykitServer.Envelopes
import PaykitServer.Persistence.Database

/-!
# The sets a drain commits to

A drain stores a keyed hash of the cancellations it has enqueued and one of the invoices it
has classified, and reads of the drain compare the stored rows with them. Fields of
variable length stand behind their lengths, so that the hashed bytes determine the rows,
their order included.
-/

namespace PaykitServer.Persistence.DrainSets

open Collections Relational

structure CancellationRow where
  invoiceId : BitVec 128
  paymentRequestId : Text
  outboxId : BitVec 128
  intentEnvelope : Bytes

structure ItemRow where
  invoiceId : BitVec 128
  creatorId : BitVec 128
  lockHash : Bytes
  generation : BitVec 64
  classification : Text

def CancellationRow.encoded (row : CancellationRow) : List UInt8 :=
  wordBytes 16 row.invoiceId ++ (lengthPrefixed 8 (utf8 row.paymentRequestId.val) ++
    (wordBytes 16 row.outboxId ++ lengthPrefixed 8 row.intentEnvelope.val))

def ItemRow.encoded (row : ItemRow) : List UInt8 :=
  wordBytes 16 row.invoiceId ++ (wordBytes 16 row.creatorId ++
    (lengthPrefixed 8 row.lockHash.val ++ (wordBytes 8 row.generation ++
      lengthPrefixed 8 (utf8 row.classification.val))))

def cancellationBytes (rows : List CancellationRow) : List UInt8 :=
  utf8 "payment-drain-cancellation-set-v1\x00" ++ rows.flatMap CancellationRow.encoded

def itemBytes (rows : List ItemRow) : List UInt8 :=
  utf8 "payment-drain-item-set-v1\x00" ++ rows.flatMap ItemRow.encoded

def cancellationRowsHash (crypto : Crypto) (rows : List CancellationRow) : LookupHash :=
  crypto.lookupHash (cancellationBytes rows)

def itemRowsHash (crypto : Crypto) (rows : List ItemRow) : LookupHash :=
  crypto.lookupHash (itemBytes rows)

structure FrozenSets where
  cancellationEnqueuedCount : Int
  cancellationSetHash : LookupHash
  itemSetHash : LookupHash

/-- Compare the stored rows of a drain, in the order they are read, with what it froze. -/
def validateFrozenSets (crypto : Crypto) (drain : FrozenSets) (rows : List CancellationRow)
    (itemRows : List ItemRow) : Except PersistenceError Unit := do
  ensure (0 ≤ drain.cancellationEnqueuedCount) .corruptOrMissing
  ensure ((rows.length : Int) = drain.cancellationEnqueuedCount ∧
    cancellationRowsHash crypto rows = drain.cancellationSetHash) .corruptOrMissing
  ensure (itemRowsHash crypto itemRows = drain.itemSetHash) .corruptOrMissing

theorem bytes_delimited : Delimited fun bytes : Bytes => lengthPrefixed 8 bytes.val :=
  lengthPrefixed_delimited Subtype.val_injective fun bytes => bytes.property

theorem text_delimited : Delimited fun text : Text => lengthPrefixed 8 (utf8 text.val) :=
  lengthPrefixed_delimited (utf8_injective.comp Subtype.val_injective) fun text => text.property

theorem wordBytes_append_ne_nil {width : Nat} (word : BitVec (8 * (width + 1)))
    (rest : List UInt8) : wordBytes (width + 1) word ++ rest ≠ [] := by
  apply List.ne_nil_of_length_pos
  rw [List.length_append, wordBytes, length_bigEndian]
  omega

theorem cancellationBytes_injective : Function.Injective cancellationBytes := by
  have fields := (@wordBytes_delimited 16).append
    (text_delimited.append ((@wordBytes_delimited 16).append bytes_delimited))
  have columns : Function.Injective fun row : CancellationRow =>
      (row.invoiceId, row.paymentRequestId, row.outboxId, row.intentEnvelope) := by
    rintro ⟨⟩ ⟨⟩ same
    simpa using same
  have rows := (fields.comp columns).flatMap fun row => wordBytes_append_ne_nil _ _
  exact fun _ _ same => rows (List.append_cancel_left same)

theorem itemBytes_injective : Function.Injective itemBytes := by
  have fields := (@wordBytes_delimited 16).append ((@wordBytes_delimited 16).append
    (bytes_delimited.append ((@wordBytes_delimited 8).append text_delimited)))
  have columns : Function.Injective fun row : ItemRow =>
      (row.invoiceId, row.creatorId, row.lockHash, row.generation, row.classification) := by
    rintro ⟨⟩ ⟨⟩ same
    simpa using same
  have rows := (fields.comp columns).flatMap fun row => wordBytes_append_ne_nil _ _
  exact fun _ _ same => rows (List.append_cancel_left same)

/-- The commitments are free of collisions before hashing: the hashed bytes are equal only
for equal lists of rows. What a drain froze is therefore all that validates, unless the
keyed hash collides on it. -/
theorem frozen_sets_determined (crypto : Crypto) :
    (∀ rows rows', cancellationBytes rows = cancellationBytes rows' ↔ rows = rows') ∧
    (∀ items items', itemBytes items = itemBytes items' ↔ items = items') ∧
    ∀ count rows items rows' items',
      (crypto.hmac (cancellationBytes rows') = crypto.hmac (cancellationBytes rows) →
        cancellationBytes rows' = cancellationBytes rows) →
      (crypto.hmac (itemBytes items') = crypto.hmac (itemBytes items) →
        itemBytes items' = itemBytes items) →
      validateFrozenSets crypto
          ⟨count, cancellationRowsHash crypto rows, itemRowsHash crypto items⟩ rows' items' =
        .ok () → rows' = rows ∧ items' = items := by
  refine ⟨fun _ _ => cancellationBytes_injective.eq_iff, fun _ _ => itemBytes_injective.eq_iff,
    fun count rows items rows' items' separate separate' valid => ?_⟩
  obtain ⟨_, _, _, cancellations, valid⟩ := bind₂_eq_ok.mp valid
  exact ⟨cancellationBytes_injective (separate (ensure_eq_ok.mp cancellations).2),
    itemBytes_injective (separate' (ensure_eq_ok.mp valid))⟩

end PaykitServer.Persistence.DrainSets
