import IdentityBridge.Pattern.Reader.State
import IdentityBridge.Report

/-! What can be wrong with a configuration, and how it is reported. -/

namespace IdentityBridge

inductive ConfigurationError where
  /-- A value format has an opening brace without a closing one. -/
  | unmatchedBrace (format : String)
  /-- A value format has an unknown name between braces. -/
  | unknownPlaceholder (format placeholder : String)
  | invalidValuePattern (pattern : String) (cause : Pattern.Refusal)
  /-- The object number under a property prefix is not an integer. -/
  | invalidObjectNumber (text owner : String)
  /-- A rule has neither a group prefix nor a group suffix. -/
  | unsafeRule (rule : String)
  | invalidRolePattern (rule : String) (cause : Pattern.Refusal)
  | unknownAdapter (hint : String) (available : List String)
  | unknownStore (hint : String) (available : List String)
deriving DecidableEq, Repr

namespace ConfigurationError

def hintDetails (hint : String) (available : List String) : Table String Datum :=
  { entries := [("hint", .text hint), ("available", .list (available.map .text))] }

def report : ConfigurationError → Report
  | unmatchedBrace format => {
      kind := .valueFormat
      message := "Value format [" ++ format ++ "] has an unmatched '\x7b'. " ++
        "Escape it or add the missing brace."
      details := { entries := [("value_format", .text format)] } }
  | unknownPlaceholder format placeholder => {
      kind := .valueFormat
      message := "Value format [" ++ format ++ "] has an unknown placeholder [" ++ placeholder ++
        "]. Fix it or escape the opening brace '\x7b' right before."
      details := { entries := [("value_format", .text format), ("placeholder", .text placeholder)] } }
  | invalidValuePattern pattern _ => {
      kind := .valueFormat
      message := "Value regex [" ++ pattern ++ "] is not a valid regular expression"
      details := { entries := [("value_regex", .text pattern)] } }
  | invalidObjectNumber text owner => {
      kind := .configuration
      message := "Object number [" ++ text ++ "] of [" ++ owner ++ "] is not an integer" }
  | unsafeRule rule => {
      kind := .unsafeRule
      message := "Dynamic role configuration [" ++ rule ++
        "] doesn't specify any group prefix or suffix."
      details := { entries := [("configuration", .text rule)] } }
  | invalidRolePattern rule _ => {
      kind := .unsafeRule
      message := "Dynamic role configuration [" ++ rule ++ "] has an invalid role regex"
      details := { entries := [("configuration", .text rule)] } }
  | unknownAdapter hint available => {
      kind := .unknownComponent
      message := "Failed to load authentication adapter [" ++ hint ++ "]"
      details := hintDetails hint available }
  | unknownStore hint available => {
      kind := .unknownComponent
      message := "Failed to load persistence store [" ++ hint ++ "]"
      details := hintDetails hint available }

end ConfigurationError

end IdentityBridge
