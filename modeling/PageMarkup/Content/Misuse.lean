/-!
# Misused values

Documents, schemas and settings are not typed beforehand, so a value may turn up where its kind
does not fit. Each constructor names one way in which that happens; such a fault carries no message
of its own.
-/

namespace PageMarkup

/-- The ways in which a value does not fit where it is used. -/
inductive Misuse where
  /-- Something that holds no items is read as a collection. -/
  | notIterable
  /-- Something other than a pair is read as an entry of a map. -/
  | notPair
  /-- A value that can change serves as a key. -/
  | notHashable
  /-- A text is needed. -/
  | notText
  /-- A number is needed. -/
  | notNumber
  /-- Values of different kinds are put in order. -/
  | notOrdered
  /-- A value cannot be saved. -/
  | notStorable
  /-- A setting has no such name. -/
  | unknownSetting
  /-- The entries of something other than a map are asked for. -/
  | noEntries
  /-- An item is appended to something other than a list. -/
  | noAppend
  /-- The first part of a name that is no text is asked for. -/
  | noParts
  /-- A hook reads or deletes an entry that is not there. -/
  | missingEntry
  /-- The first character of an empty name is asked for. -/
  | emptyName
  /-- A case style has no such name. -/
  | unknownCase
  /-- The host of an address is malformed. -/
  | malformedAddress
  /-- A text is not in the data notation. -/
  | malformedData
  /-- An integer has more digits than are read or written. -/
  | tooManyDigits
  /-- The bytes of a file are not a text. -/
  | malformedText
  /-- A path, or a part of one, is longer than any file can be named. -/
  | pathTooLong
  /-- A file is to be written under a path that holds a null character. -/
  | nullInPath
  /-- A text with half of a surrogate pair in it is to be written to a file. -/
  | notEncodable
  /-- A message closes a style that it has not opened, or an action without a proper value. -/
  | malformedMessage
  /-- The letters of something other than a text are asked for. -/
  | noLetters
  /-- An operation is called without what it needs to be told. -/
  | notTold
  /-- An operation is told more than it can take. -/
  | toldTooMuch
  /-- The last item of an empty list is asked for. -/
  | emptyList
  deriving DecidableEq

end PageMarkup
