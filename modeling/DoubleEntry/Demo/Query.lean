import DoubleEntry.Metadata

/-!
# Queries of a demo

A query asks for balances, for transactions or for accounts. What a query filters by
is kept as it is given and looked at only when the query is run.
-/

namespace DoubleEntry

/-- What a query asks for. -/
inductive Inquiry where
  | balance (addressFilter : Data) (addressFilters : List Data)
  | transactions (account : Data) (metadata : Option Metadata)
  | accounts (address : Text)

/-- A question to the ledger of a demo. -/
structure Query where
  title : Text
  description : Data
  inquiry : Inquiry

namespace Inquiry

/-- The name of the type of an inquiry. -/
def typeName : Inquiry → Text
  | .balance _ _ => "balance"
  | .transactions _ _ => "transactions"
  | .accounts _ => "accounts"

/-- Read a question for balances. -/
def balanceOfData (data : Data) : Except Fault Inquiry := do
  let filters ← data.memberOr "addressFilters" .null
  let filter ← data.memberOr "addressFilter" .null
  return .balance filter (← filters.sequence)

/-- Read a question for transactions. -/
def transactionsOfData (data : Data) : Except Fault Inquiry := do
  let given ← data.memberOr "transactionFilter" .null
  let filter := if given.isPresent then given else .object []
  let metadata ← filter.memberOr "metadata" .null
  let account ← filter.memberOr "account" .null
  if metadata.isPresent then
    return .transactions account (some (← Metadata.ofData metadata))
  return .transactions account none

/-- Read a question for accounts. -/
def accountsOfData (title : Text) (data : Data) : Except Fault Inquiry :=
  .accounts <$> data.textMember ("query '" ++ title ++ "'") "accountAddress"

end Inquiry

namespace Query

/-- Read a query. -/
def ofData (data : Data) : Except Fault Query := do
  let queryType ← data.textMember "query" "queryType"
  let title ← data.textMember "query" "title"
  let description ← data.memberOr "description" (.text [])
  let inquiry ←
    if queryType = "balance" then Inquiry.balanceOfData data
    else if queryType = "transactions" then Inquiry.transactionsOfData data
    else if queryType = "accounts" then Inquiry.accountsOfData title data
    else throw (.unknownQueryType title queryType)
  return { title, description, inquiry }

end Query

end DoubleEntry
