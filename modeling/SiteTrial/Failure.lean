import SiteTrial.Text.Quoted
import SiteTrial.Yaml.Problem
/-!
# Failures

* `Fault` : a value, number, file or page that cannot be dealt with; nobody turns it into an answer;
* `ConfigurationError` : a scenario, step or configuration file that is not as it should be;
* `AutomationError` : the browser did not do what it was asked to;
* `EmptyInput` : a statistic of nothing;
* `CollectorMisuse`, `Failure.category` : a store used out of turn;
* `Failure` : any of these, `Failure.isOwn` tells the ones a run survives,
  `Failure.message` words each of them.
-/

namespace SiteTrial

inductive Fault where
  /-- A value of this kind has no such part. -/
  | noMember (kind member : String)
  /-- A value of this kind cannot be walked through. -/
  | notIterable (kind : String)
  /-- A value of this kind has no parts under keys. -/
  | notKeyed (kind : String)
  /-- A member that should be a key and a value has another length. -/
  | notAPair (index length : Nat)
  /-- A member that should be a key and a value is of a kind that has no members. -/
  | pairExpected (index : Nat)
  /-- A value of this kind cannot be a key. -/
  | notAKey (kind : String)
  /-- A value of this kind is no number. -/
  | notANumber (kind : String)
  /-- A value of this kind is no integer. -/
  | notAnInteger (kind : String)
  /-- A text is no number. -/
  | badNumeral (shown : String)
  /-- A text is no integer. -/
  | badInteger (shown : String)
  /-- Values of two kinds have no order. -/
  | unordered (left right : String)
  /-- Bytes in which a pattern of text is looked for. -/
  | patternInBytes
  /-- Bytes whose start is compared with a text. -/
  | startOfBytes
  /-- An integer beyond the doubles. -/
  | integerTooLarge
  /-- The integer of an infinite double. -/
  | infiniteInteger
  /-- The integer of a double that is no number. -/
  | undefinedInteger
  /-- A square beyond the doubles. -/
  | squareTooLarge
  /-- The root of a negative number. -/
  | rootOfNegative
  /-- A key that a mapping does not hold. -/
  | missingKey (shown : String)
  /-- An integer with more digits than are read or written. -/
  | integerTooLong
  /-- Lists and mappings stand too deep inside each other. -/
  | tooDeep
  /-- A text whose form is right, but of which no values can be made. -/
  | unreadable (problem : Yaml.Problem)
  /-- An address that cannot be taken apart. -/
  | badAddress (reason : String)
  /-- A page that broke in a way of its own. -/
  | pageBroke (message : String)
  /-- A limit of workers below zero. -/
  | negativeLimit
  | fileNotFound (path : String)
  | notADirectory (path : String)
  | isADirectory (path : String)
  | fileExists (path : String)
  | nameTooLong (path : String)
  /-- A path that holds the character by which paths end. -/
  | nullInPath
  /-- A path that holds half a pair of code units. -/
  | unencodable
deriving Repr, DecidableEq

namespace Fault

/-- The wording of a fault. -/
def message : Fault → String
  | .noMember kind member => s!"'{kind}' object has no attribute '{member}'"
  | .notIterable kind => s!"'{kind}' object is not iterable"
  | .notKeyed kind => s!"'{kind}' object is not subscriptable"
  | .notAPair index length =>
    s!"dictionary update sequence element #{index} has length {length}; 2 is required"
  | .pairExpected index => s!"cannot convert dictionary update sequence element #{index} to a sequence"
  | .notAKey kind => s!"unhashable type: '{kind}'"
  | .notANumber kind => s!"float() argument must be a string or a real number, not '{kind}'"
  | .notAnInteger kind =>
    s!"int() argument must be a string, a bytes-like object or a real number, not '{kind}'"
  | .badNumeral shown => s!"could not convert string to float: {shown}"
  | .badInteger shown => s!"invalid literal for int() with base 10: {shown}"
  | .unordered left right => s!"'>' not supported between instances of '{left}' and '{right}'"
  | .patternInBytes => "cannot use a string pattern on a bytes-like object"
  | .startOfBytes => "startswith first arg must be bytes or a tuple of bytes, not str"
  | .integerTooLarge => "int too large to convert to float"
  | .infiniteInteger => "cannot convert float infinity to integer"
  | .undefinedInteger => "cannot convert float NaN to integer"
  | .squareTooLarge => "(34, 'Numerical result out of range')"
  | .rootOfNegative => "math domain error"
  | .missingKey shown => shown
  | .integerTooLong =>
    "Exceeds the limit (4300 digits) for integer string conversion; "
      ++ "use sys.set_int_max_str_digits() to increase the limit"
  | .tooDeep => Yaml.Problem.tooDeep.message
  | .unreadable problem => problem.message
  | .badAddress reason => reason
  | .pageBroke message => message
  | .negativeLimit => "Semaphore initial value must be >= 0"
  | .fileNotFound path => s!"[Errno 2] No such file or directory: {Text.quoted path}"
  | .notADirectory path => s!"[Errno 20] Not a directory: {Text.quoted path}"
  | .isADirectory path => s!"[Errno 21] Is a directory: {Text.quoted path}"
  | .fileExists path => s!"[Errno 17] File exists: {Text.quoted path}"
  | .nameTooLong path => s!"[Errno 36] File name too long: {Text.quoted path}"
  | .nullInPath => "embedded null byte"
  | .unencodable => "surrogates not allowed"

end Fault

/-- What is wrong with one entry of a scenario's steps. -/
inductive StepError where
  | notAMapping
  | badTimeout (action : String)
  | clickWithoutSelector
  | fillIncomplete
  | customWithoutFunction
deriving Repr, DecidableEq

namespace StepError

/-- The wording of what is wrong with a step. -/
def message : StepError → String
  | .notAMapping => "each step must be a mapping"
  | .badTimeout action => s!"{action} step timeout must be a number"
  | .clickWithoutSelector => "click step requires a selector"
  | .fillIncomplete => "fill step requires a selector and a value"
  | .customWithoutFunction => "custom step requires a customFunction"

end StepError

/-- What is wrong with a scenario file that can be read. -/
inductive LibraryFault where
  | scenariosMissing
  | entryNotAMapping (index : Nat)
  | entryWithoutName (index : Nat)
  | duplicateName (name : String)
  | testDataNotAMapping
  | usersNotAList
deriving Repr, DecidableEq

namespace LibraryFault

/-- The wording of one fault of a scenario file. -/
def message : LibraryFault → String
  | .scenariosMissing => "'scenarios' is required and must be a list"
  | .entryNotAMapping index => s!"scenarios[{index}] must be a mapping"
  | .entryWithoutName index => s!"scenarios[{index}].name is required and must be a string"
  | .duplicateName name => s!"duplicate scenario name: {name}"
  | .testDataNotAMapping => "'testData' must be a mapping"
  | .usersNotAList => "'testData.users' must be a list"

end LibraryFault

/-- What is wrong with a configuration that can be read. -/
inductive ConfigFault where
  | applicationsNotAMapping
  | applicationNotAMapping (key : String)
  | addressMissing (key : String)
  | environmentsNotAMapping
  | environmentNotAMapping (key : String)
  | badParallelInstances (key : String)
  | badIterations (key : String)
  | networkNotAMapping (key : String)
  | executionNotAMapping
  | badScenarios
  | thresholdsNotAMapping
  | badRegressionThreshold
  | badIterationDelay
  | unknownEnvironment (shown : String)
  | notAnInteger (name shown : String)
  | notPositive (name : String)
  | sameNames (shown : String)
deriving Repr, DecidableEq

namespace ConfigFault

/-- The wording of one fault of a configuration. -/
def message : ConfigFault → String
  | .applicationsNotAMapping => "'applications' must be a mapping"
  | .applicationNotAMapping key => s!"'applications.{key}' must be a mapping"
  | .addressMissing key => s!"'applications.{key}.baseUrl' is required"
  | .environmentsNotAMapping => "'environments' must be a mapping"
  | .environmentNotAMapping key => s!"'environments.{key}' must be a mapping"
  | .badParallelInstances key => s!"'environments.{key}.parallelInstances' must be a positive integer"
  | .badIterations key => s!"'environments.{key}.iterations' must be a positive integer"
  | .networkNotAMapping key => s!"'environments.{key}.networkConditions' must be a mapping"
  | .executionNotAMapping => "'execution' must be a mapping"
  | .badScenarios => "'execution.scenarios' must be a list of names"
  | .thresholdsNotAMapping => "'execution.thresholds' must be a mapping"
  | .badRegressionThreshold => "'execution.regressionThreshold' must be a non-negative number"
  | .badIterationDelay => "'execution.iterationDelayMs' must be a non-negative integer"
  | .unknownEnvironment shown => s!"environment must be one of ('pre', 'pro'), got {shown}"
  | .notAnInteger name shown => s!"{name} must be an integer, got {shown}"
  | .notPositive name => s!"{name} must be a positive integer"
  | .sameNames shown => s!"baseline and candidate must have distinct names, both are {shown}"

end ConfigFault

inductive ConfigurationError where
  | fileNotFound (path : String)
  | unsupportedExtension (extension : String)
  | unparsable (path : String)
  | notAMapping (path : String)
  | invalidLibrary (faults : List LibraryFault)
  | invalidConfig (faults : List ConfigFault)
  | unknownScenario (name : String)
  | scenarioWithoutName
  | stepsNotAList (name : String)
  | badStep (name : String) (position : Nat) (error : StepError)
  | expectedMetricsNotAMapping (name : String)
  | badRequiresLogin (name : String)
  | userNotAMapping (index : Nat)
  | step (error : StepError)
deriving Repr, DecidableEq

namespace ConfigurationError

/-- A heading and one line for each fault. -/
def bulleted (heading : String) (lines : List String) : String :=
  heading ++ "\n  - " ++ "\n  - ".intercalate lines

/-- The wording of a configuration error. -/
def message : ConfigurationError → String
  | .fileNotFound path => s!"file not found: {path}"
  | .unsupportedExtension extension =>
    s!"unsupported file extension: {extension} (expected .yaml, .yml, or .json)"
  | .unparsable path => s!"failed to parse {path}"
  | .notAMapping path => s!"{path} must be a mapping/object at the top level"
  | .invalidLibrary faults =>
    bulleted "scenario file validation failed:" (faults.map LibraryFault.message)
  | .invalidConfig faults => bulleted "config validation failed:" (faults.map ConfigFault.message)
  | .unknownScenario name => s!"scenario '{name}' not found"
  | .scenarioWithoutName => "scenario 'name' is required and must be a string"
  | .stepsNotAList name => s!"scenario '{name}': 'steps' must be a list"
  | .badStep name position error => s!"scenario '{name}', step {position}: " ++ error.message
  | .expectedMetricsNotAMapping name => s!"scenario '{name}': 'expectedMetrics' must be a mapping"
  | .badRequiresLogin name => s!"scenario '{name}': 'requiresLogin' must be true or false"
  | .userNotAMapping index => s!"testData.users[{index}] must be a mapping"
  | .step error => error.message

end ConfigurationError

inductive AutomationError where
  /-- Something was not observed in time. -/
  | timedOut (what : String)
  /-- The browser refused an operation. -/
  | refused (what message : String)
  | noCredentials (application : String)
  | stillOnLoginPage (application : String)
  | loginRejected (application : String)
  /-- A session could not be opened, for a reason of the browser's. -/
  | unavailable (timeout : Bool) (message : String)
deriving Repr, DecidableEq

namespace AutomationError

/-- Whether something was not observed in time. -/
def isTimeout : AutomationError → Bool
  | .timedOut _ => true
  | .unavailable timeout _ => timeout
  | _ => false

/-- The wording of an automation error. -/
def message : AutomationError → String
  | .timedOut what => s!"timed out waiting for {what}"
  | .refused what message => s!"{what} failed: {message}"
  | .noCredentials application => s!"{application} has no credentials configured"
  | .stillOnLoginPage application => s!"login to {application} did not leave the login page"
  | .loginRejected application => s!"login to {application} was rejected"
  | .unavailable _ message => message

end AutomationError

inductive EmptyInput where
  | percentile
  | summary
  | score
deriving Repr, DecidableEq

namespace EmptyInput

/-- The wording of a statistic of nothing. -/
def message : EmptyInput → String
  | .percentile => "cannot compute a percentile of an empty sequence"
  | .summary => "cannot calculate statistics for an empty sequence"
  | .score => "cannot score an empty list of samples"

end EmptyInput

inductive CollectorMisuse where
  | addAfterClose
  | readBeforeClose
deriving Repr, DecidableEq

namespace CollectorMisuse

/-- The wording of a collector's misuse. -/
def message : CollectorMisuse → String
  | .addAfterClose => "collector is closed; no more samples can be added"
  | .readBeforeClose => "collector must be closed before its samples are read"

end CollectorMisuse

/-- Anything that keeps an operation from answering. -/
inductive Failure where
  | configuration (error : ConfigurationError)
  | automation (error : AutomationError)
  | empty (error : EmptyInput)
  | collector (error : CollectorMisuse)
  /-- A measurement filed under a heading that does not exist. -/
  | category (name : String)
  | fault (fault : Fault)
deriving Repr, DecidableEq

namespace Failure

/-- Whether the failure is one that a run reports and survives. -/
def isOwn : Failure → Bool
  | .configuration _ | .automation _ | .empty _ => true
  | _ => false

/-- The wording of a failure. -/
def message : Failure → String
  | .configuration e => e.message
  | .automation e => e.message
  | .empty e => e.message
  | .collector e => e.message
  | .category name => s!"unknown application metric category: {name}"
  | .fault f => f.message

end Failure

end SiteTrial
