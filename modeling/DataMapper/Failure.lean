import DataMapper.Statement

/-! # Failures of data access

A failure is a cause. Its code, its wording and whether a retry may help are
read off the cause.
-/
namespace DataMapper

/-- Why a connection gave no answer, or none that can be read. -/
inductive ConnectionFault where
  | backend (message : String)
  | notInteger (found : String)
  | exceedsInt32 (value : Int64)
deriving DecidableEq

def ConnectionFault.message : ConnectionFault → String
  | backend message => message
  | notInteger found => "expected an integer, got " ++ found
  | exceedsInt32 value => Decimal.ofInt value.toInt ++ " does not fit in 32 bits"

inductive ArgumentFault where
  | required (name : String)
  | emptyList (name : String)
  | windowTooWide (count : UInt64)
  | unpaired (fields values : Nat)
  | tableInUse (entity : String)
  | tableAlreadySet (entity table : String)
  | stated (message : String)
deriving DecidableEq

def ArgumentFault.message : ArgumentFault → String
  | required name => name ++ " is required"
  | emptyList name => name ++ " must not be empty"
  | windowTooWide count =>
    "a singular lookup cannot use a limit of " ++ Decimal.ofNat count.toNat ++ " rows"
  | unpaired fields values =>
    Decimal.ofNat fields ++ " fields were given with " ++ Decimal.ofNat values ++ " values"
  | tableInUse entity => "table name for " ++ entity ++ " must be set before its first use"
  | tableAlreadySet entity table => "table name for " ++ entity ++ " is already set to " ++ table
  | stated message => message

inductive MappingFault where
  | noIdentifier (entity : String)
  | manyIdentifiers (entity : String)
  | stated (message : String)
deriving DecidableEq

def MappingFault.message : MappingFault → String
  | noIdentifier entity => entity ++ " has no mappable identifier field named `id`"
  | manyIdentifiers entity => entity ++ " maps more than one identifier column"
  | stated message => message

/-- What is not offered for every entity type. -/
inductive UnsupportedFault where
  | deleteEntity (entity : String)
  | stated (message : String)
deriving DecidableEq

def UnsupportedFault.message : UnsupportedFault → String
  | deleteEntity entity => "delete is not implemented for " ++ entity ++ "; use delete_by_id"
  | stated message => message

inductive Failure where
  | invalidArgument (fault : ArgumentFault)
  | dataAccess (statement : Statement) (source : ConnectionFault)
  | mapping (fault : MappingFault)
  | unsupported (fault : UnsupportedFault)
  | configuration (message : String)
deriving DecidableEq

namespace Failure

def code : Failure → String
  | invalidArgument _ => "INVALID_ARGUMENT"
  | dataAccess .. => "DATA_ACCESS_FAILURE"
  | mapping _ => "MAPPING_ERROR"
  | unsupported _ => "UNSUPPORTED_OPERATION"
  | configuration _ => "CONFIGURATION_ERROR"

def message : Failure → String
  | invalidArgument fault => "Invalid argument: " ++ fault.message
  | dataAccess statement source =>
    "Data access failure running `" ++ statement.sql ++ "`: " ++ source.message
  | mapping fault => "Mapping error: " ++ fault.message
  | unsupported fault => "Unsupported operation: " ++ fault.message
  | configuration message => "Configuration error: " ++ message

def statement? : Failure → Option Statement
  | dataAccess statement _ => some statement
  | _ => none

def source? : Failure → Option ConnectionFault
  | dataAccess _ source => some source
  | _ => none

/-- Only a failed statement may succeed when it is run again. -/
def isRetriable (f : Failure) : Bool :=
  f.statement?.isSome

end Failure
end DataMapper
