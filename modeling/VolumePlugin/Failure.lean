/-
# Failures

Everything that can go wrong is one of these causes. A cause keeps the values that it is about
and has one wording. Causes of the plugin's own rules come first, then those of the provider,
and last the ones that arise where a value does not have the shape that it is used with.
-/
import VolumePlugin.Failure.Argument
import VolumePlugin.Failure.Mismatch
import VolumePlugin.Failure.Problem
import VolumePlugin.Url.Split
import VolumePlugin.Value.Json

namespace VolumePlugin

/-- A failed request to the provider: the status of its answer, or null where no answer came,
and what the answer said. -/
structure ProviderError where
  method : String
  url : String
  status : Value
  details : Value
  deriving DecidableEq

/-- The wording of a failed request to the provider. -/
def ProviderError.message (error : ProviderError) : String :=
  let request := String.join ["provider request ", error.method, " ", error.url, " failed"]
  match error.status with
  | .null => String.join [request, " : ", error.details.display]
  | status =>
    String.join [request, " with status ", status.display, " : ", error.details.display]

/-- The wording of a URL that cannot be taken apart. -/
def Url.Fault.message : Url.Fault → String
  | .misplacedBracket => "Invalid IPv6 URL"
  | .host .futureAddress => "IPvFuture address is invalid"
  | .host .ipv4InBrackets => "An IPv4 address cannot be in brackets"
  | .host (.notAnAddress address) =>
    String.join [quote (String.ofList address), " does not appear to be an IPv4 or IPv6 address"]
  | .hiddenDelimiter authority =>
    String.join ["netloc '", String.ofList authority,
      "' contains invalid characters under NFKC normalization"]

/-- A numeral with too many digits, found when reading, where they were counted, or when
writing. -/
inductive LongNumeral
  | read (digits : Nat)
  | written
  deriving DecidableEq

/-- The wording of a numeral with too many digits. -/
def LongNumeral.message (numeral : LongNumeral) : String :=
  let count :=
    match numeral with
    | .read digits => String.join [": value has ", Numeral.text digits, " digits"]
    | .written => ""
  String.join ["Exceeds the limit (", Numeral.text Numeral.digitLimit,
    " digits) for integer string conversion", count,
    "; use sys.set_int_max_str_digits() to increase the limit"]

/-- The sorts of failures that are raised from outside with arguments of their own. -/
inductive Raised
  | notImplemented
  | missingKey
  | badValue
  | runtime
  | general
  deriving DecidableEq

/-- The wording of the arguments of such a failure. -/
def Raised.message (sort : Raised) (arguments : List Value) : String :=
  match arguments with
  | [] => ""
  | [argument] => if sort = .missingKey then argument.quoted else argument.display
  | several => String.join ["(", Value.quotedItems several, ")"]

/-- Why something failed. -/
inductive Failure
  /-- The request is not valid. -/
  | validation (problem : Problem)
  /-- The node id is not the id of a droplet. -/
  | invalidNodeId (nodeId : Value)
  /-- The starting token of a listing is no page number. -/
  | invalidListingToken (token : Value)
  /-- The size is outside the range of volume sizes. -/
  | sizeOutOfRange (size least greatest : Value)
  /-- Several volumes share one name. -/
  | duplicateName (name count : Value)
  /-- The volume of the name was not created by this plugin. -/
  | notOwned (name description : Value)
  /-- The caller gave up. -/
  | cancelled (call : Value)
  /-- The caller's deadline has passed. -/
  | deadlineExceeded (call : Value)
  /-- The environment holds no access token. -/
  | missingToken (name : Value)
  /-- The provider answered something else than expected. -/
  | unexpectedAnswer (url body : Value)
  /-- A request to the provider failed. -/
  | provider (error : ProviderError)
  /-- A value has another shape than it is used with. -/
  | mismatch (found : Mismatch)
  /-- Arguments do not fit what is called with them. -/
  | argument (callee : String) (fault : ArgumentFault)
  /-- A member or key that has to be there is missing. -/
  | missingMember (key : Value)
  /-- A link is no URL. -/
  | badUrl (fault : Url.Fault)
  /-- A numeral has too many digits. -/
  | longNumeral (numeral : LongNumeral)
  /-- There is no log level of the name. -/
  | unknownLogLevel (name : String)
  /-- A container in a body is nested too deeply to be read. -/
  | nestedTooDeep (container : Json.Container)
  /-- An infinite number has no whole part. -/
  | infiniteNumber
  /-- A text or list would become too large. -/
  | outOfMemory
  /-- A failure from outside. -/
  | raised (sort : Raised) (arguments : List Value)
  deriving DecidableEq

/-- The wording of a failure. -/
def Failure.message : Failure → String
  | .validation problem => String.join ["Validation error has occurred : ", problem.message]
  | .invalidNodeId nodeId => String.join ["Wrong node id format : ", nodeId.display]
  | .invalidListingToken token =>
    String.join ["invalid starting token : ", token.display, ", expected a page number"]
  | .sizeOutOfRange size least greatest =>
    String.join ["requested size ", size.display, " bytes is out of the supported range [",
      least.display, ", ", greatest.display, "] bytes"]
  | .duplicateName name count =>
    String.join ["fatal issue: duplicate volume ", name.display, " exists, ", count.display,
      " volumes share the name"]
  | .notOwned name description =>
    String.join ["fatal issue: volume ", name.display, " (", description.display,
      ") was not created by CSI"]
  | .cancelled call => String.join ["request was cancelled by the caller during ", call.display]
  | .deadlineExceeded call =>
    String.join ["request deadline expired during ", call.display,
      ", no time is left for a provider call"]
  | .missingToken name =>
    String.join ["provider access token is missing, set the ", name.display,
      " environment variable"]
  | .unexpectedAnswer url body =>
    String.join ["unexpected provider response for ", url.display, " : ", body.display]
  | .provider error => error.message
  | .mismatch found => found.message
  | .argument callee fault => fault.message callee
  | .missingMember key => key.quoted
  | .badUrl fault => fault.message
  | .longNumeral numeral => numeral.message
  | .unknownLogLevel name => String.join ["unknown log level : ", name]
  | .nestedTooDeep container =>
    String.join ["maximum recursion depth exceeded while decoding a JSON ", container.name,
      " from a unicode string"]
  | .infiniteNumber => "cannot convert float infinity to integer"
  | .outOfMemory => ""
  | .raised sort arguments => sort.message arguments

/-- A failure that is worded with values. Where one of them is too long to be written, this is the
failure instead. -/
def Failure.wordedWith (failure : Failure) (values : List Value) : Failure :=
  if values.all Value.isWritable then failure else .longNumeral .written

/-- A failure that is worded with one value hangs on this one. -/
theorem Failure.wordedWith_single (failure : Failure) (value : Value) :
    failure.wordedWith [value] =
      if value.isWritable = true then failure else .longNumeral .written := by
  simp [wordedWith]

/-- Words never make a failed request of a failure. -/
@[simp]
theorem Failure.wordedWith_eq_provider_iff {failure : Failure} {values : List Value}
    {error : ProviderError} :
    failure.wordedWith values = .provider error ↔
      values.all Value.isWritable = true ∧ failure = .provider error := by
  unfold wordedWith
  split <;> simp [*]

end VolumePlugin
