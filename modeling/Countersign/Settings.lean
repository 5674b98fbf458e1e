import Countersign.Text.Cut
import Countersign.Text.Decimal

/-!
# Settings

What can be set from outside, and what holds where nothing is set. Settings are
looked up by name, one variable each. A validity window that is no unsigned 64-bit
number leaves the default in force; every other variable is taken as it is.
-/

namespace Countersign

/-- The settings of a signing peer. -/
structure Settings where
  /-- The address the gateway listens at. -/
  gatewayListen : Text
  logLevel : Text
  /-- How many seconds a timestamp and the clock may be apart. -/
  validityWindow : UInt64
  /-- The names of the response fields to sign where they are set. -/
  signedResponseNames : List Text
  /-- The name of the source of keys. -/
  keySource : Text
  /-- The properties file of the source `properties`. -/
  keysFile : Text
  /-- The comma list of the source `env`. -/
  keys : Option Text
deriving DecidableEq

namespace Settings

/-- The settings that hold where nothing is set. -/
def standard : Settings where
  gatewayListen := "0.0.0.0:8080".toList
  logLevel := "info".toList
  validityWindow := 300
  signedResponseNames := ["Content-Type".toList]
  keySource := "properties".toList
  keysFile := "partnerauth-keys.properties".toList
  keys := none

/-- The settings that a choice of variables makes. -/
def ofVariables (lookup : Text → Option Text) : Settings where
  gatewayListen := (lookup "GATEWAY_LISTEN".toList).getD standard.gatewayListen
  logLevel := (lookup "LOG_LEVEL".toList).getD standard.logLevel
  validityWindow :=
    ((lookup "PARTNERAUTH_VALIDITY_WINDOW_SECS".toList).bind fun v =>
      Decimal.uint64? (Text.trim v)).getD standard.validityWindow
  signedResponseNames :=
    ((lookup "PARTNERAUTH_SIGNED_RESPONSE_HEADERS".toList).map Text.commaPieces).getD
      standard.signedResponseNames
  keySource := (lookup "PARTNERAUTH_KEY_PROVIDER".toList).getD standard.keySource
  keysFile := (lookup "PARTNERAUTH_KEYS_FILE".toList).getD standard.keysFile
  keys := lookup "PARTNERAUTH_KEYS".toList

end Settings

end Countersign
