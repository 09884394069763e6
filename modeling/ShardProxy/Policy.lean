import ShardProxy.Error
import ShardProxy.Statement

/-!
# Admission of statements

Under distributed transactions the schema cannot be changed; otherwise every statement is admitted.
-/

namespace ShardProxy

/-- How far a transaction reaches. -/
inductive TransactionMode
  /-- Each backend commits for itself. -/
  | localOnly
  /-- Over several backends. -/
  | xa
deriving DecidableEq, Repr

namespace TransactionMode

/-- The name in a configuration. -/
def name : TransactionMode → String
  | localOnly => "LOCAL"
  | xa => "XA"

def ofName? (s : String) : Option TransactionMode :=
  if s = "LOCAL" then some localOnly else if s = "XA" then some xa else none

instance : Inspect TransactionMode where
  inspect
    | localOnly => "Local"
    | xa => "Xa"

/-- Whether a statement of this kind is admitted. -/
def check (mode : TransactionMode) (type : SqlType) : Except ProxyError Unit :=
  if type = .ddl ∧ mode = .xa then .error .ddlUnderDistributedTransaction else .ok ()

end TransactionMode

end ShardProxy
