import ToolParams.Address
import ToolParams.Sealed.Opening
import ToolParams.Settings.VariableFile

/-!
# Vaults of variables

A vault is a file of variables whose values are sealed files of variables, one for
each environment.  A key tells the environment and the password that opens its file;
it is written as an address with a password and a query.
-/

namespace ToolParams.Vault

/-- Why a key does not open a vault. -/
inductive VaultFault where
  | malformed
  | noPassword
  | noEnvironment
  | unknown (variableName : String)
  | shortPassword
  | nothingSealed
  | badTag (length : Nat)
  | refused
deriving DecidableEq, Repr

/-- The text of a fault. -/
def VaultFault.message : VaultFault → String
  | .malformed =>
      "INVALID_DOTENV_KEY: Wrong format. Must be in valid uri format like " ++
        "dotenv://:key_1234@dotenvx.com/vault/.env.vault?environment=development"
  | .noPassword => "INVALID_DOTENV_KEY: Missing key part"
  | .noEnvironment => "INVALID_DOTENV_KEY: Missing environment part"
  | .unknown variableName =>
      s!"NOT_FOUND_DOTENV_ENVIRONMENT: Cannot locate environment {variableName} in your " ++
        ".env.vault file."
  | .shortPassword => "INVALID_DOTENV_KEY: It must be 64 characters long (or more)"
  | .nothingSealed => "Invalid initialization vector"
  | .badTag length => s!"Invalid authentication tag length: {length}"
  | .refused => "DECRYPTION_FAILED: Please check your DOTENV_KEY"

/-- The bytes that hexadecimal digits write, up to the first pair that is none. -/
def hexBytes : List Char → List Nat
  | high :: low :: rest =>
      match Address.hexDigit? high, Address.hexDigit? low with
      | some upper, some lower => (16 * upper + lower) :: hexBytes rest
      | _, _ => []
  | _ => []

/-- The value of a digit in base 64. -/
def sextet? (digit : Char) : Option Nat :=
  if digit.isUpper then some (digit.toNat - 65)
  else if digit.isLower then some (digit.toNat - 71)
  else if digit.isDigit then some (digit.toNat + 4)
  else if digit = '+' ∨ digit = '-' then some 62
  else if digit = '/' ∨ digit = '_' then some 63
  else none

/-- The bytes of sextets. -/
def packed : List Nat → List Nat
  | a :: b :: c :: d :: rest =>
      [a * 4 + b / 16, b % 16 * 16 + c / 4, c % 4 * 64 + d] ++ packed rest
  | [a, b, c] => [a * 4 + b / 16, b % 16 * 16 + c / 4]
  | [a, b] => [a * 4 + b / 16]
  | _ => []

/-- The bytes of a text in base 64; other characters do not count. -/
def base64Bytes (characters : List Char) : List Nat :=
  packed ((characters.takeWhile (· ≠ '=')).filterMap sextet?)

/-- Opens a sealed file with a password. -/
def openSealed (password text : List Char) : Except VaultFault String :=
  let key := hexBytes (password.drop (password.length - 64))
  let bytes := base64Bytes text
  let tagLength := min 16 bytes.length
  if key.length ≠ 32 then .error .shortPassword
  else if bytes.isEmpty then .error .nothingSealed
  else if tagLength < 12 && tagLength ≠ 4 && tagLength ≠ 8 then .error (.badTag tagLength)
  else match Sealed.opened? key bytes with
    | some opened => .ok (Bytes.toText (opened.map UInt8.ofNat))
    | none => .error .refused

/-- Opens the file in a vault that a key is for. -/
def openWith (vault : OrderedMap String String) (key : String) : Except VaultFault String := do
  let some address := Address.read? (Text.trim key) | throw .malformed
  if address.password = "" then throw .noPassword
  match (address.queried? "environment").filter (· ≠ "") with
  | none => throw .noEnvironment
  | some environment =>
      let name := "DOTENV_VAULT_" ++ Text.toUpper environment
      match (vault.get? name).filter (· ≠ "") with
      | none => throw (.unknown name)
      | some text => openSealed address.password.toList text.toList

/-- Opens a vault with the first of some keys that fits. -/
def openWithAny (vault : OrderedMap String String) : List String → Except VaultFault String
  | [] => .error .malformed
  | [key] => openWith vault key
  | key :: others =>
      match openWith vault key with
      | .ok text => .ok text
      | .error _ => openWithAny vault others

/-- An environment with the variables of a vault and of the file that some keys,
with commas between them, open in it. -/
def addTo (environment : Environment) (vaultText keys : String) :
    Except VaultFault Environment := do
  let opened ← openWithAny (.ofList (VariableFile.read vaultText)) (Text.split ',' keys)
  return VariableFile.addTo (VariableFile.addTo environment vaultText) opened

end ToolParams.Vault
