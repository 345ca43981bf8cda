import RenderTrust.Anchor.Merkle

/-!
# `core/ledger/anchor/models.py`

The two tables of the anchoring service, and the text of an entry that its Merkle
leaf is the hash of.
-/
namespace RenderTrust.Anchor

abbrev UUID := ℕ

/-- `%0{width}d`. -/
def padded (width n : ℕ) : String :=
  String.ofList (List.replicate (width - (toString n).length) '0') ++ toString n

/-- A distance from UTC of less than a day, in microseconds. -/
structure UtcOffset where
  negative : Bool
  magnitude : Fin 86400000000
  deriving DecidableEq, Repr

structure DateTime where
  year : Fin 10000
  month : Fin 13
  day : Fin 32
  hour : Fin 24
  minute : Fin 60
  second : Fin 60
  microsecond : Fin 1000000
  utcoffset : Option UtcOffset
  deriving DecidableEq, Repr

def fraction (microsecond : ℕ) : String :=
  if microsecond = 0 then "" else "." ++ padded 6 microsecond

def UtcOffset.isoformat (offset : UtcOffset) : String :=
  let seconds := offset.magnitude.val / 1000000
  let microsecond := offset.magnitude.val % 1000000
  let sign := if offset.negative then "-" else "+"
  let minutes := sign ++ padded 2 (seconds / 3600) ++ ":" ++ padded 2 (seconds / 60 % 60)
  if seconds % 60 = 0 ∧ microsecond = 0 then minutes
  else minutes ++ ":" ++ padded 2 (seconds % 60) ++ fraction microsecond

def DateTime.isoformat (t : DateTime) : String :=
  padded 4 t.year ++ "-" ++ padded 2 t.month ++ "-" ++ padded 2 t.day ++ "T" ++
    padded 2 t.hour ++ ":" ++ padded 2 t.minute ++ ":" ++ padded 2 t.second ++
    fraction t.microsecond ++ (t.utcoffset.map UtcOffset.isoformat).getD ""

structure AnchorRecord where
  id : UUID
  merkleRoot : String
  txHash : String
  blockNumber : ℕ
  entryCount : ℕ
  deriving DecidableEq, Repr

structure CreditLedgerEntry where
  id : ℤ
  createdAt : Option DateTime
  accountId : String
  deltaUsd : String
  anchorId : Option UUID
  deriving DecidableEq, Repr

def CreditLedgerEntry.hashInput (e : CreditLedgerEntry) : String :=
  toString e.id ++ ":" ++ e.accountId ++ ":" ++ e.deltaUsd ++ ":" ++
    (e.createdAt.map DateTime.isoformat).getD ""

example : DateTime.isoformat ⟨2024, 5, 1, 9, 30, 0, 250, some ⟨true, 19800000000⟩⟩ =
    "2024-05-01T09:30:00.000250-05:30" := by decide +kernel

end RenderTrust.Anchor
