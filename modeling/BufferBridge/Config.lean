import BufferBridge.ElementSize

/-! The configuration that every call reads: which codec, at which level, and two policies. -/
namespace BufferBridge

/-- The block formats to choose from. -/
inductive CodecKind
  | snappy | zstandard
  deriving Repr, DecidableEq

def CodecKind.key : CodecKind → String
  | snappy => "snappy"
  | zstandard => "zstd"

/-- Every format, in the order messages list them. -/
def CodecKind.all : List CodecKind := [snappy, zstandard]

def RemainderPolicy.key : RemainderPolicy → String
  | reject => "reject"
  | truncate => "truncate"

/-- Every policy, in the order messages list them. -/
def RemainderPolicy.all : List RemainderPolicy := [reject, truncate]

/-- The settings of a bridge. What is not set is as given here. -/
structure Config where
  /-- The codec behind compressing and decompressing. -/
  codec : CodecKind := .snappy
  /-- The compression level, where the codec has levels. -/
  level : Int32 := 3
  /-- What a shuffle does with a partial element at the end. -/
  remainder : RemainderPolicy := .reject
  /-- Whether a copy may have source and destination overlap. -/
  overlap : Bool := true
  deriving Repr, DecidableEq

/-- The word for a truth value in JSON and in log records. -/
def boolWord : Bool → String
  | true => "true"
  | false => "false"

namespace Config

/-- The names of the settings in JSON, in the order in which they are written. -/
def fieldNames : List String :=
  ["codec", "zstd_level", "shuffle_remainder", "allow_overlapping_copy"]

/-- A configuration in the form used by log records. -/
def inspect (config : Config) : String :=
  let codec := match config.codec with
    | .snappy => "Snappy"
    | .zstandard => "Zstd"
  let remainder := match config.remainder with
    | .reject => "Reject"
    | .truncate => "Truncate"
  "BridgeConfig \x7b codec: " ++ codec ++ ", zstd_level: " ++ toString config.level.toInt ++
    ", shuffle_remainder: " ++ remainder ++ ", allow_overlapping_copy: " ++
    boolWord config.overlap ++ " \x7d"

def toJson (config : Config) : String :=
  "\x7b\"codec\":\"" ++ config.codec.key ++ "\",\"zstd_level\":" ++ toString config.level.toInt ++
    ",\"shuffle_remainder\":\"" ++ config.remainder.key ++ "\",\"allow_overlapping_copy\":" ++
    boolWord config.overlap ++ "\x7d"

end Config

end BufferBridge
