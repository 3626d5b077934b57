import DoubleEntry.Script.Preview
import DoubleEntry.Tutorial.Foundation

/-!
# Lessons on scripts

Scripts as a whole, sources in order, splits and sends of several assets.
-/

namespace DoubleEntry

namespace Lesson

/-- Whether something holds, as a word. -/
def truthText (b : Bool) : Text := (Data.bool b).quoted

/-- All sends of a script go through together or not at all. -/
def atomicity (ledger : Ledger) : Lesson Ledger := do
  stepHeader 5 "Atomicity" "A script becomes a single transaction: all postings or none."
  let script := paragraph [
    "",
    "        send [USD/2 1000] ( source = @users:alice:wallet " ++
      "destination = @users:carol:wallet )",
    "        send [USD/2 9999] ( source = @users:carol:wallet " ++
      "destination = @users:dave:wallet )",
    "    "]
  say script
  let before := ledger.log.length
  let ledger ← expectRefusal .insufficientFunds ledger script sayRejected
  sectionHeader "Result"
  say ("Transactions before: " ++ Decimal.ofNat before ++ ", after: " ++
    Decimal.ofNat ledger.log.length)
  say ("Carol exists: " ++ truthText (ledger.account? "@users:carol:wallet").isSome)
  say <| paragraph [
    "",
    "    The first send was valid on its own, yet carol was never credited.",
    "    The second send failed, so the whole script was discarded.",
    "    "]
  sectionHeader "Direct Postings"
  say ">>> ledger.create_transaction([Posting(...), Posting(...)])"
  let relay (source destination : Text) : Posting :=
    { source, destination, asset := dollars, amount := 500 }
  let proposal : Proposal := {
    postings := [relay "@users:alice:wallet" "@users:carol:wallet",
      relay "@users:carol:wallet" "@users:dave:wallet"]
    metadata := [(.text "type", .text "RELAY")]
    overdrafts := []
    reference := .null }
  match ledger.commitAloud proposal with
  | (.ok tx, after) =>
    put (Ledger.announcement ledger after none)
    say (← lift (Receipt.ofTransaction tx))
    return after
  | (.error fault, after) =>
    put (Ledger.announcement ledger after (some fault))
    throw fault

/-- Several sources in order. -/
def waterfall (settings : TutorialSettings) (ledger : Ledger) : Lesson Ledger := do
  stepHeader 6 "Waterfall Sources"
    ("Sources are drained in order; max caps and overdraft change how much each gives.")
  let (_, ledger) ← execute ledger
    ("send [USD/2 " ++ (← lift settings.promoCredit.written) ++
      "] ( source = @world destination = @promo:alice )") []
  let script := paragraph [
    "",
    "    send [USD/2 " ++ (← lift settings.checkoutAmount.written) ++ "] (",
    "        source = \x7b",
    "            max [USD/2 1000] from @promo:alice",
    "            @users:alice:wallet",
    "            @credit:alice allowing unbounded overdraft",
    "        \x7d",
    "        destination = \x7b",
    "            " ++ (← lift settings.platformFee.written) ++ " to @platform:fees",
    "            remaining to @merchants:acme",
    "        \x7d",
    "    )",
    "    set_tx_meta(\"type\", \"CHECKOUT\")",
    "    "]
  say script
  sectionHeader "Flow Preview (best-effort scan, no execution)"
  (Preview.postings script).forM fun posting =>
    say ("  " ++ posting.source ++ " -> " ++ posting.destination ++ ": " ++ posting.amount)
  let (tx, ledger) ← execute ledger script []
  sectionHeader "Resulting Postings"
  tx.postings.forM fun posting => do say ("  " ++ (← lift posting.written))
  sectionHeader "Balances"
  showBalances ledger
  return ledger

/-- Percentages, fractions and what remains. -/
def splitting (ledger : Ledger) : Lesson Ledger := do
  stepHeader 7 "Splitting Destinations"
    "Portions round down; the last destination takes the remainder."
  let (tx, ledger) ← execute ledger
    (paragraph [
      "",
      "        send [USD/2 1000] (",
      "            source = @merchants:acme",
      "            destination = \x7b",
      "                1/3 to @partners:a",
      "                1/3 to @partners:b",
      "                remaining to @partners:c",
      "            \x7d",
      "        )",
      "    "]) []
  tx.postings.forM fun posting => do
    let amount ← lift (Decimal.written posting.amount)
    say ("  " ++ posting.destination.padRight 20 ++ " " ++ amount)
  sayAll [[], "  1000 / 3 = 333 rem 1, so @partners:c receives 334."]
  sectionHeader "Send All"
  expectRefusal .unsupported ledger
    "send [USD/2 *] ( source = @partners:a destination = @world )" fun fault =>
      say ("Unsupported: " ++ fault.message)

/-- The present time as people read it. -/
def timeText : Stamp → Text
  | .logical moment => moment.shown
  | .wallClock => Stamp.wallClockMark

/-- Two assets in one script. -/
def conversion (settings : TutorialSettings) (ledger : Ledger) : Lesson Ledger := do
  stepHeader 8 "Multi-Asset Sends" "A conversion is two sends in one transaction."
  let ledger ← lift <| match settings.startTime.nextDay? with
    | some moment => ledger.advance moment
    | none => .error .calendarEnds
  let (_, ledger) ← execute ledger
    "send [USD/2 \x7bUSD\x7d] ( source = @world destination = @users:erin:wallet )"
    [("USD", settings.usdToConvert)]
  let (tx, ledger) ← execute ledger
    (paragraph [
      "",
      "        send [USD/2 \x7bUSD\x7d] (",
      "            source = @users:erin:wallet",
      "            destination = @fx:usd",
      "        )",
      "        send [EUR/2 \x7bEUR\x7d] (",
      "            source = @fx:eur allowing unbounded overdraft",
      "            destination = @users:erin:wallet",
      "        )",
      "        set_tx_meta(\"type\", \"FX\")",
      "        set_tx_meta(\"rate\", \"0.92\")",
      "    "])
    [("USD", settings.usdToConvert), ("EUR", settings.eurReceived)]
  sectionHeader "Erin's Balances"
  (ledger.balances "@users:erin:wallet").forM fun (asset, balance) => do
    let amount ← lift (Asset.formatAmount balance asset)
    say ("  " ++ asset.padRight 8 ++ " " ++ amount)
  let euros ← lift (Asset.formatAmount (ledger.balance "@fx:eur" "EUR/2") "EUR/2")
  sayAll [[], "  @fx:eur  " ++ euros]
  say ("  Committed at " ++ timeText tx.timestamp)
  return ledger

end Lesson

end DoubleEntry
