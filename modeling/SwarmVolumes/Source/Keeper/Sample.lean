import SwarmVolumes.Source.Keeper.Config

/-!
# A sample deployment

The bindings the source's tests configure a keeper with, and a platform that reads
them as the real one does.
-/
namespace SwarmVolumes.Source.Keeper
open Library
open Library.Hex (isHexDigit)

/-- `new URL`, of a URL that is written in lower case with a scheme and a host, and has
no port, user or fragment. -/
def plainUrl (raw : String) : Option Url :=
  let scheme := raw.toList.takeWhile fun c => c ≠ ':'
  match raw.toList.dropWhile fun c => c ≠ ':' with
  | ':' :: '/' :: '/' :: rest =>
    let host := rest.takeWhile fun c => c ≠ '/' ∧ c ≠ '?'
    let path := (rest.drop host.length).takeWhile fun c => c ≠ '?'
    let search := rest.drop (host.length + path.length)
    let pathname := if path = [] then ['/'] else path
    some
      { protocol := String.ofList (scheme ++ [':'])
        host := String.ofList host
        pathname := String.ofList pathname
        search := String.ofList search
        href := String.ofList (scheme ++ [':', '/', '/'] ++ host ++ pathname ++ search) }
  | _ => none

def sampleKey : String := "0x59c6995e998f97a5a0044966f0945389dc9e86dae88c7a8412f4603b6b78690d"

def sampleToken : String := "123456789:AAtest-token_for-fixtures-only-0123456"

def sampleRuntime : Runtime where
  parseUrl := plainUrl
  formatEther := toString
  number raw := if isDigits raw then some (decimal raw) else if raw = "" then some 0 else none
  toLowerCase raw := String.ofList (raw.toList.map Char.toLower)
  isAddress raw := raw.length = 42 ∧ raw.toList.take 2 = ['0', 'x'] ∧ (raw.toList.drop 2).all isHexDigit
  privateKeyToAccount key :=
    if key = sampleKey then some "0x70997970C51812dc3A010C7d01b50e0d17dc79C8" else none

def sampleEnv : KeeperEnv := Dict.get?
  [("DEPLOYMENT_NAME", "keeper-test"), ("CHAIN_ID", "11155111"),
    ("REGISTRY_ADDRESS", "0x33a53c79a08ed1f863905cd4c6ce036a4c493729"),
    ("TELEGRAM_CHAT_ID", "-1001234567890"), ("NOTIFY_WARNINGS", "false"), ("MIN_BALANCE_WEI", "0"),
    ("MAX_VOLUMES_PER_CYCLE", "10"), ("CYCLE_TIMEOUT_MS", "20000"), ("RECEIPT_TIMEOUT_MS", "30000"),
    ("CONFIRMATIONS", "1"), ("PRIVATE_KEY", sampleKey), ("RPC_URL", "https://rpc.example/v3/APIKEY"),
    ("TELEGRAM_BOT_TOKEN", sampleToken)]

/-- The bindings with another value for one of them. -/
def KeeperEnv.rebind (env : KeeperEnv) (key value : String) : KeeperEnv := fun key' =>
  if key' = key then some value else env key'

end SwarmVolumes.Source.Keeper
