import RenderTrust.Anchor.Bundler

/-!
# Verifying what was submitted

`verify_root` decodes the event of the transaction that `submit_root` sent, with the names of the
ABI file. Any number of transactions may be mined between the two calls.
-/
namespace RenderTrust.Anchor
open Lib.ByteString

section Web3
variable (hashOf : ℕ → String)

def Chain.grow (chain : Chain) (later : List Foreign) : Chain :=
  later.foldl (fun chain what => foreign hashOf what chain) chain

theorem Chain.receipts_grow (chain : Chain) (later : List Foreign) :
    chain.receipts <+: (chain.grow hashOf later).receipts := by
  induction later generalizing chain with
  | nil => exact List.prefix_refl _
  | cons what later ih =>
      have grown : chain.receipts <+: (foreign hashOf what chain).receipts := by
        rw [foreign, Chain.receipts_mine]
        exact List.prefix_append _ _
      exact grown.trans (ih (foreign hashOf what chain))

end Web3

section Lookup
variable {chain : Chain} {txHash expected : String}

theorem RootAnchored.lookup_merkleRoot (event : RootAnchored) :
    event.args.lookup "merkleRoot" = none := by
  simp [RootAnchored.args, List.lookup_cons]

theorem verifyRoot_of_logged {receipt : TxReceipt} {before after : List TxReceipt}
    (receipts : chain.receipts = before ++ receipt :: after)
    (hash : receipt.transactionHash = txHash) (fresh : ∀ r ∈ before, r.transactionHash ≠ txHash)
    (logged : receipt.logs ≠ []) :
    Web3ChainClient.verifyRoot chain txHash expected = .error (.keyError "merkleRoot") := by
  have found : chain.receipts.find? (fun r => r.transactionHash = txHash) = some receipt := by
    rw [receipts, List.find?_append, List.find?_eq_none.mpr, List.find?_cons_of_pos]
    · rfl
    · simp [hash]
    · intro r member
      simpa using fresh r member
  obtain ⟨event, rest, made⟩ := List.exists_cons_of_ne_nil logged
  simp only [Web3ChainClient.verifyRoot, found, made, RootAnchored.lookup_merkleRoot]

end Lookup

section Sent
variable {hashOf : ℕ → String} {client : ChainClient Chain Fate}

/-- Once a root is sent and stored, `verify_root` raises the `KeyError` of a name that the ABI file
does not have, at any time after. -/
theorem verifyRoot_submitRoot (submits : client.Submits hashOf) {chain chain' : Chain}
    {root : Bytes} (size : root.length = 32) {entryCount : ℕ} {fate : Fate} {receipt : ChainReceipt}
    (submitted : client.submitRoot fate (hex root) entryCount chain = (.ok receipt, chain'))
    (stored : chain'.Stored receipt.txHash root entryCount)
    (fresh : ∀ r ∈ chain.receipts, r.transactionHash ≠ receipt.txHash) (later : List Foreign)
    (expected : String) :
    Web3ChainClient.verifyRoot (chain'.grow hashOf later) receipt.txHash expected =
      .error (.keyError "merkleRoot") := by
  obtain ⟨mined, -, rfl, rfl⟩ := submits.ok size submitted
  have receipts := Chain.receipts_mine hashOf chain root entryCount mined
  obtain ⟨after, grown⟩ :=
    Chain.receipts_grow hashOf (chain.mine hashOf root entryCount mined).2 later
  obtain ⟨other, member, hash, event, logged, -⟩ := stored
  rw [receipts, List.mem_append, List.mem_singleton] at member
  obtain before | rfl := member
  · exact absurd hash (fresh other before)
  · rw [receipts, List.append_assoc] at grown
    exact verifyRoot_of_logged grown.symm rfl fresh (List.ne_nil_of_mem logged)

end Sent

end RenderTrust.Anchor
