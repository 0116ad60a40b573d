import Courier.Settings.Fields
import Courier.Wire

/-! # Settings in JSON

Settings may be read from JSON alone; then every value must already have the
type of its field.
-/

namespace Courier

open Json Json.Decoder

def jsonEncoding : Encoding Fragment DecodeError where
  bool := bool
  uint32 := uint32
  uint64 := uint64
  real := real
  string := string
  logFormat := variant (variantsOf LogFormat.name LogFormat.all)
  option := option
  dictionary := dictionary
  record _ := record

def PipelineSettings.decode : Decoder PipelineSettings := read jsonEncoding

def RateLimit.decode : Decoder RateLimit := read jsonEncoding

def ShutdownSettings.decode : Decoder ShutdownSettings := read jsonEncoding

def Settings.decode : Decoder Settings := read jsonEncoding

end Courier
