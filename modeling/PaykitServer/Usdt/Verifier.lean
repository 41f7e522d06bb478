import PaykitServer.Operations

/-!
# The verification of a transfer

A candidate names one log of one transaction. The verifier asks a node of the chain
for the receipt of the transaction and for the block of that number, checks one
against the other, and takes depth and finality from a snapshot of the chain's tip
that all verifications share for a few seconds.

A conversation holds what the node answers to one verification. The answers are
arbitrary: another answer to every call, malformed or missing.
-/

namespace PaykitServer.Usdt

open Relational Numeric Domain Persistence

/-- The answer to one call: its JSON, if it comes in time, whole and with success. -/
abbrev Response := Option Value

/-- `call`: the result in an answer. -/
def call (response : Response) : Except VerificationError Value := do
  let value ← demand .unavailable response
  ensure ((value.field "id").same (.number (.integer 1)) = true ∧
    (value.field "jsonrpc").same (.text "2.0") = true ∧
    (value.get? "error").isNone = true) .unavailable
  demand .unavailable (value.get? "result")

/-- `u64::from_str_radix` to the base 16: digits, with or without a plus before them. -/
def fromHex (text : List Char) : Option Nat :=
  let digits := if text.head? = some '+' then text.tail else text
  if digits = [] then none else (Hex.spelled digits).filter (· < 2 ^ 64)

def quantity (value : Value) : Except VerificationError Nat :=
  demand .unavailable (value.asStr.bind fun text =>
    match text.toList with
    | '0' :: 'x' :: digits => fromHex digits
    | _ => none)

def parseHash (value : Value) : Except VerificationError B256 :=
  demand .unavailable (value.asStr.bind fun text => Hex.decode 64 text.toList)

structure ChainTip where
  head : Nat
  finalized : Option Nat
deriving DecidableEq

/-- One call of `chain_tip`: when it looks at the shared tip, when it starts to read a
new one, and what it is answered then. -/
structure Visit where
  minimumBlock : Nat
  checkedAt : Instant
  readAt : Instant
  chainId : Response
  finalized : Response
  head : Response

def chainTipTtl : Nat := 5 * 1000000000

def Visit.read (visit : Visit) : Except VerificationError ChainTip := do
  let chainId ← call visit.chainId
  let chainId ← quantity chainId
  ensure (chainId = 42161) .unavailable
  let block ← call visit.finalized
  let finalized ← (if block.isNull = true then .ok none
    else (quantity (block.field "number")).map some)
  let head ← call visit.head
  let head ← quantity head
  ensure (visit.minimumBlock ≤ head ∧ finalized.all (· ≤ head) = true) .unavailable
  return { head, finalized }

/-- `chain_tip`. The tip stays locked until the visit ends, so visits follow one another;
one that is dropped on the way leaves no tip, as one that is not answered. -/
def chainTip (cached : Option (Instant × ChainTip)) (visit : Visit) :
    Except VerificationError ChainTip × Option (Instant × ChainTip) :=
  match cached.filter fun (readAt, tip) =>
      visit.checkedAt - readAt < chainTipTtl && visit.minimumBlock ≤ tip.head with
  | some (readAt, tip) => (.ok tip, some (readAt, tip))
  | none =>
    match visit.read with
    | .ok tip => (.ok tip, some (visit.readAt, tip))
    | .error error => (.error error, none)

def tipAfter (visits : List Visit) : Option (Instant × ChainTip) :=
  visits.foldl (fun cached visit => (chainTip cached visit).2) none

/-- Hash of the event signature `Transfer(address,address,uint256)`. -/
def transferTopic : B256 := 0xddf252ad1be2c89b69c2b068fc378daa952ba7f163c4a11628f55a4df523b3ef#_

/-- `transfer_amount`: what a log moved to the recipient. -/
def transferAmount (log : Value) (sender : Address) (recipient : UsdtAddress) (hash : B256)
    (blockHash : Value) : Except VerificationError Nat := do
  let topics ← demand .invalidProof ((log.field "topics").asArray.filter (·.length = 3))
  ensure ((log.field "removed").same (.bool true) = false) .invalidProof
  ensure ((log.field "transactionHash").same (.text (String.ofList (Hex.encode hash))) = true)
    .invalidProof
  ensure ((log.field "blockHash").same blockHash = true) .invalidProof
  let address ← demand .invalidProof (log.field "address").asStr
  let address ← demand .invalidProof (Hex.decode 40 address.toList)
  let token ← demand .invalidProof (Hex.decode 40 usdtToken.toList)
  ensure (address = token) .invalidProof
  let event ← parseHash ((Value.array topics).item 0)
  ensure (event = transferTopic) .invalidProof
  let source ← parseHash ((Value.array topics).item 1)
  ensure (source = sender.intoWord) .invalidProof
  let target ← parseHash ((Value.array topics).item 2)
  let receiving ← demand .invalidProof (Hex.decode 40 recipient.asStr.toList)
  ensure (target = Address.intoWord receiving) .invalidProof
  let data ← demand .invalidProof (log.field "data").asStr
  let data ← canonicalHex data 32
  let word ← demand .invalidProof (Hex.decode 64 data.toList)
  let amount := word.toNat
  ensure (amount < 2 ^ 64) .invalidProof
  ensure (amount ≠ 0) .invalidProof
  return amount

/-- What one verification is told: the visits to the tip by anyone before its own two and
between them, and the answers to its calls. -/
structure Conversation where
  earlier : List Visit
  first : Visit
  receipt : Response
  between : List Visit
  second : Visit
  block : Response

namespace Conversation

def opening (conversation : Conversation) : Visit :=
  { conversation.first with minimumBlock := 0 }

def closing (conversation : Conversation) (number : Nat) : Visit :=
  { conversation.second with minimumBlock := number }

def firstTip (conversation : Conversation) : Except VerificationError ChainTip :=
  (chainTip (tipAfter conversation.earlier) conversation.opening).1

def secondTip (conversation : Conversation) (number : Nat) : Except VerificationError ChainTip :=
  (chainTip (tipAfter (conversation.earlier ++ [conversation.opening] ++ conversation.between))
    (conversation.closing number)).1

/-- The visits up to the tip that a verification uses: it visits again when the receipt's
block is above the first tip. -/
def visits (conversation : Conversation) (number : Nat) : List Visit :=
  let opened := conversation.earlier ++ [conversation.opening]
  match conversation.firstTip with
  | .ok tip =>
    if tip.head < number then opened ++ conversation.between ++ [conversation.closing number]
    else opened
  | .error _ => opened

end Conversation

/-- `OffsetDateTime::from_unix_timestamp` of an unsigned number. -/
def fromUnixTimestamp (seconds : Nat) : Option OffsetDateTime :=
  let instant : OffsetDateTime := seconds * 1000000
  if seconds < 2 ^ 63 ∧ instant.inRange = true then some instant else none

/-- `verify_candidate`. Missing receipts and reorganized blocks are pending observations. -/
def verifyCandidate (conversation : Conversation) (context : PaymentContext)
    (candidate : PaymentCandidate) : Except VerificationError (Option VerifiedTransfer) := do
  let tip ← conversation.firstTip
  let receipt ← call conversation.receipt
  if receipt.isNull = true then return none
  let transaction ← parseHash (receipt.field "transactionHash")
  ensure (transaction = candidate.hash) .unavailable
  let status ← quantity (receipt.field "status")
  ensure (status = 1) .invalidProof
  let number ← quantity (receipt.field "blockNumber")
  let tip ← (if tip.head < number then conversation.secondTip number else .ok tip)
  let block ← call conversation.block
  if block.isNull = true then return none
  let included ← parseHash (receipt.field "blockHash")
  let canonical ← parseHash (block.field "hash")
  if included ≠ canonical then return none
  let blockNumber ← quantity (block.field "number")
  ensure (blockNumber = number) .unavailable
  let timestamp ← quantity (block.field "timestamp")
  let timestamp ← demand .unavailable (fromUnixTimestamp timestamp)
  let logs ← demand .unavailable (receipt.field "logs").asArray
  let log ← demand .invalidProof logs[candidate.index]?
  let word ← (parseHash ((log.field "topics").item 1)).mapError fun _ => .invalidProof
  let sender ← demand .invalidProof (candidate.senders.find? fun address =>
    address.intoWord = word)
  let amount ← transferAmount log sender context.recipient candidate.hash
    (receipt.field "blockHash")
  ensure (number ≤ tip.head ∧ tip.head - number + 1 < 2 ^ 32) .unavailable
  return some {
    identity := logIdentity candidate.hash candidate.index
    amount
    timestamp
    confirmations := tip.head - number + 1
    finalized := tip.finalized.any (number ≤ ·)
    sender }

section Tips

variable {visits : List Visit} {visit : Visit} {cached : Option (Instant × ChainTip)} {n : Nat}

/-- On one of the visits the node answered that this block is finalized. -/
def Reported (visits : List Visit) (finalized : Nat) : Prop :=
  ∃ visit ∈ visits, ∃ block, call visit.finalized = .ok block ∧
    quantity (block.field "number") = .ok finalized

theorem Reported.mono {more : List Visit} (reported : Reported visits n) (sub : visits ⊆ more) :
    Reported more n := by
  obtain ⟨visit, member, answer⟩ := reported
  exact ⟨visit, sub member, answer⟩

end Tips

structure MovedBy (log : Value) (sender : Address) (recipient : UsdtAddress) (hash : B256)
    (blockHash : Value) (amount : Nat) : Prop where
  token : ∃ text contract, log.field "address" = .text text ∧
    Hex.decode 40 text.toList = some contract ∧ Hex.decode 40 usdtToken.toList = some contract
  topics : ∃ event source target receiving, log.field "topics" = .array [event, source, target] ∧
    parseHash event = .ok transferTopic ∧ parseHash source = .ok sender.intoWord ∧
    Hex.decode 40 recipient.asStr.toList = some receiving ∧
    parseHash target = .ok (Address.intoWord receiving)
  transaction : log.field "transactionHash" = .text (String.ofList (Hex.encode hash))
  blockHash : (log.field "blockHash").same blockHash = true
  data : ∃ text word, log.field "data" = .text text ∧ Hex.decode 64 text.toList = some word ∧
    word.toNat = amount
  positive : 0 < amount
  fits : amount < 2 ^ 64

/-- The answers behind a reported transfer from a block of this number. -/
structure Backed (context : PaymentContext) (candidate : PaymentCandidate)
    (receipt block : Value) (number : Nat) (transfer : VerifiedTransfer) : Prop where
  identity : transfer.identity = logIdentity candidate.hash candidate.index
  transaction : parseHash (receipt.field "transactionHash") = .ok candidate.hash
  succeeded : quantity (receipt.field "status") = .ok 1
  receiptNumber : quantity (receipt.field "blockNumber") = .ok number
  blockNumber : quantity (block.field "number") = .ok number
  blockHash : ∃ hash, parseHash (receipt.field "blockHash") = .ok hash ∧
    parseHash (block.field "hash") = .ok hash
  attested : transfer.sender ∈ candidate.senders
  log : ∃ logs log, receipt.field "logs" = .array logs ∧ logs[candidate.index]? = some log ∧
    log.field "blockHash" = receipt.field "blockHash" ∧
    MovedBy log transfer.sender context.recipient candidate.hash (receipt.field "blockHash")
      transfer.amount

section Transfers

variable {log value blockHash : Value} {sender : Address} {recipient : UsdtAddress} {hash : B256}
  {amount : Nat}

theorem parseHash_text (read : parseHash value = .ok hash) : ∃ text, value = .text text := by
  obtain ⟨text, found, -⟩ := Option.bind_eq_some_iff.mp (demand_eq_ok.mp read)
  exact ⟨text, Value.asStr_eq_some.mp found⟩

theorem canonicalHex_eq_ok {text result : String} {bytes : Nat}
    (canonical : canonicalHex text bytes = .ok result) : result = text := by
  obtain ⟨_, -, same⟩ := bind_eq_ok.mp canonical
  exact (Except.ok.inj same).symm

theorem transferAmount_eq_ok
    (moved : transferAmount log sender recipient hash blockHash = .ok amount) :
    MovedBy log sender recipient hash blockHash amount := by
  obtain ⟨topics, listed, moved⟩ := bind_eq_ok.mp moved
  obtain ⟨_, -, moved⟩ := bind_eq_ok.mp moved
  obtain ⟨_, transaction, moved⟩ := bind_eq_ok.mp moved
  obtain ⟨_, included, moved⟩ := bind_eq_ok.mp moved
  obtain ⟨text, emitter, moved⟩ := bind_eq_ok.mp moved
  obtain ⟨contract, decoded, moved⟩ := bind_eq_ok.mp moved
  obtain ⟨token, configured, moved⟩ := bind_eq_ok.mp moved
  obtain ⟨_, same, moved⟩ := bind_eq_ok.mp moved
  obtain ⟨_, event, moved⟩ := bind_eq_ok.mp moved
  obtain ⟨_, topic, moved⟩ := bind_eq_ok.mp moved
  obtain ⟨_, source, moved⟩ := bind_eq_ok.mp moved
  obtain ⟨_, sent, moved⟩ := bind_eq_ok.mp moved
  obtain ⟨_, target, moved⟩ := bind_eq_ok.mp moved
  obtain ⟨receiving, address, moved⟩ := bind_eq_ok.mp moved
  obtain ⟨_, received, moved⟩ := bind_eq_ok.mp moved
  obtain ⟨data, written, moved⟩ := bind_eq_ok.mp moved
  obtain ⟨_, canonical, moved⟩ := bind_eq_ok.mp moved
  obtain ⟨word, spelled, moved⟩ := bind_eq_ok.mp moved
  obtain ⟨_, fits, moved⟩ := bind_eq_ok.mp moved
  obtain ⟨_, nonzero, moved⟩ := bind_eq_ok.mp moved
  cases moved
  cases ensure_eq_ok.mp same
  cases ensure_eq_ok.mp topic
  cases ensure_eq_ok.mp sent
  cases ensure_eq_ok.mp received
  cases canonicalHex_eq_ok canonical
  obtain ⟨array, three⟩ := Option.filter_eq_some_iff.mp (demand_eq_ok.mp listed)
  obtain ⟨first, second, third, rfl⟩ := List.length_eq_three.mp (of_decide_eq_true three)
  exact {
    token := ⟨text, contract, Value.asStr_eq_some.mp (demand_eq_ok.mp emitter),
      demand_eq_ok.mp decoded, demand_eq_ok.mp configured⟩
    topics := ⟨first, second, third, receiving, Value.asArray_eq_some.mp array, event, source,
      demand_eq_ok.mp address, target⟩
    transaction := Value.same_text.mp (ensure_eq_ok.mp transaction)
    blockHash := ensure_eq_ok.mp included
    data := ⟨data, word, Value.asStr_eq_some.mp (demand_eq_ok.mp written),
      demand_eq_ok.mp spelled, rfl⟩
    positive := Nat.pos_of_ne_zero (ensure_eq_ok.mp nonzero)
    fits := ensure_eq_ok.mp fits }

end Transfers

section Verification

variable {conversation : Conversation} {first tip : ChainTip} {number n : Nat}

theorem verifyCandidate_ok {context : PaymentContext} {candidate : PaymentCandidate}
    {transfer : VerifiedTransfer}
    (reported : verifyCandidate conversation context candidate = .ok (some transfer)) :
    ∃ first tip receipt block number, conversation.firstTip = .ok first ∧
      (if first.head < number then conversation.secondTip number else .ok first) = .ok tip ∧
      call conversation.receipt = .ok receipt ∧ call conversation.block = .ok block ∧
      Backed context candidate receipt block number transfer ∧
      transfer.finalized = tip.finalized.any (number ≤ ·) := by
  obtain ⟨first, opened, reported⟩ := bind_eq_ok.mp reported
  obtain ⟨receipt, received, reported⟩ := bind_eq_ok.mp reported
  split at reported
  · cases reported
  obtain ⟨_, transaction, reported⟩ := bind_eq_ok.mp reported
  obtain ⟨_, asked, reported⟩ := bind_eq_ok.mp reported
  obtain ⟨_, status, reported⟩ := bind_eq_ok.mp reported
  obtain ⟨_, succeeded, reported⟩ := bind_eq_ok.mp reported
  obtain ⟨number, included, reported⟩ := bind_eq_ok.mp reported
  obtain ⟨tip, used, reported⟩ := bind_eq_ok.mp reported
  obtain ⟨block, answered, reported⟩ := bind_eq_ok.mp reported
  split at reported
  · cases reported
  obtain ⟨hash, receiptHash, reported⟩ := bind_eq_ok.mp reported
  obtain ⟨_, blockHash, reported⟩ := bind_eq_ok.mp reported
  split at reported
  · cases reported
  rename_i canonical
  obtain ⟨_, numbered, reported⟩ := bind_eq_ok.mp reported
  obtain ⟨_, sameNumber, reported⟩ := bind_eq_ok.mp reported
  obtain ⟨_, -, reported⟩ := bind_eq_ok.mp reported
  obtain ⟨timestamp, -, reported⟩ := bind_eq_ok.mp reported
  obtain ⟨logs, listed, reported⟩ := bind_eq_ok.mp reported
  obtain ⟨log, selected, reported⟩ := bind_eq_ok.mp reported
  obtain ⟨_, -, reported⟩ := bind_eq_ok.mp reported
  obtain ⟨sender, attested, reported⟩ := bind_eq_ok.mp reported
  obtain ⟨amount, moved, reported⟩ := bind_eq_ok.mp reported
  obtain ⟨_, -, reported⟩ := bind_eq_ok.mp reported
  cases reported
  cases ensure_eq_ok.mp asked
  cases ensure_eq_ok.mp succeeded
  cases ensure_eq_ok.mp sameNumber
  cases not_not.mp canonical
  have moved := transferAmount_eq_ok moved
  obtain ⟨text, written⟩ := parseHash_text receiptHash
  have sameHash : log.field "blockHash" = receipt.field "blockHash" := by
    rw [written, ← Value.same_text, ← written]
    exact moved.blockHash
  refine ⟨first, tip, receipt, block, number, opened, used, received, answered, ?_, rfl⟩
  exact {
    identity := rfl
    transaction
    succeeded := status
    receiptNumber := included
    blockNumber := numbered
    blockHash := ⟨hash, receiptHash, blockHash⟩
    attested := List.mem_of_find?_eq_some (demand_eq_ok.mp attested)
    log := ⟨logs, log, Value.asArray_eq_some.mp (demand_eq_ok.mp listed),
      demand_eq_ok.mp selected, sameHash, moved⟩ }

theorem verified_log {context : PaymentContext} {candidate : PaymentCandidate}
    {transfer : VerifiedTransfer}
    (reported : verifyCandidate conversation context candidate = .ok (some transfer)) :
    ∃ log : VerifiedLog, log.transfer = transfer := by
  obtain ⟨_, _, _, _, _, -, -, -, -, backed, -⟩ := verifyCandidate_ok reported
  exact ⟨⟨candidate.hash, candidate.index, transfer.amount, transfer.timestamp,
    transfer.confirmations, transfer.finalized, transfer.sender⟩, by
      rw [VerifiedLog.transfer, ← backed.identity]⟩

end Verification

namespace Sample

def word (value : Nat) : Value := .text (String.ofList (Hex.encode (BitVec.ofNat (4 * 64) value)))

def answer (result : Value) : Response :=
  some (.object [("id", .number (.integer 1)), ("jsonrpc", .text "2.0"), ("result", result)])

def recipient : UsdtAddress := ⟨List.replicate 40 '1', rfl⟩

def context : PaymentContext := ⟨"payer", "payee", "request", "reference", recipient⟩

def candidate : PaymentCandidate := ⟨"", 7, 0, [5]⟩

/-- A log of ten units that names block 2, though its receipt is of block 1. -/
def log : Value := .object [("address", .text usdtToken), ("blockHash", word 9),
  ("blockNumber", .text "0x2"), ("data", word 10),
  ("topics", .array [word transferTopic.toNat, word 5,
    word 0x1111111111111111111111111111111111111111]), ("transactionHash", word 7)]

def receipt : Value := .object [("blockHash", word 9), ("blockNumber", .text "0x1"),
  ("logs", .array [log]), ("status", .text "0x1"), ("transactionHash", word 7)]

def block : Value := .object [("hash", word 9), ("number", .text "0x1"), ("timestamp", .text "0x3")]

def visit : Visit where
  minimumBlock := 0
  checkedAt := 0
  readAt := 0
  chainId := answer (.text "0xa4b1")
  finalized := answer block
  head := answer (.text "0x1")

def conversation : Conversation := ⟨[], visit, answer receipt, [], visit, answer block⟩

def transfer : VerifiedTransfer := ⟨logIdentity 7 0, 10, 3000000, 1, true, 5⟩

theorem verified : verifyCandidate conversation context candidate = .ok (some transfer) := by
  decide +kernel

end Sample

end PaykitServer.Usdt
