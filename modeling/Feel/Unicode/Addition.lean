import Feel.Unicode.CaseMapping
import Feel.Unicode.Property

/-!
# Additions of version 17

The classes of a pattern know version 16 of the character database. Names of groups are read, and
texts changed in case and quoted, by version 17; this module holds what that version adds for them.
-/

namespace Feel.Unicode

/-- The mapping table from added capital letters to their small letters. -/
def addedPairRows : List String := ["a7ce.1.1.a7cf a7d2.2.2.a7d3 16ea0.19.1.16ebb"]

def addedLowerRuns : List MappingRun := readMapping addedPairRows

def addedUpperRuns : List MappingRun :=
  addedLowerRuns.map fun r => ⟨r.target, r.count, r.step, r.first⟩

def toUpper (c : Char) : List Char := mapped (upperRuns ++ addedUpperRuns) upperLong c

/-- Lower case without regard to the place in a word. -/
def toLower (c : Char) : List Char := mapped (lowerRuns ++ addedLowerRuns) lowerLong c

/-- Added characters that have a case. -/
def addedCasedRows : List String := ["a7ce-a7cf a7d2 a7d4 a7f1 16ea0-16eb8 16ebb-16ed3"]

/-- Characters that have a case. The reversed glottal stop, a small letter before, has none. -/
def casedChars : CharSet := (cased.diff (readRanges ["295"])).union (readRanges addedCasedRows)

/-- Added characters that do not end the word whose case is looked at. -/
def addedCaseIgnorableRows : List String := [
  "1acf-1add 1ae0-1aeb a7f1 10ec5 10efa-10efb 11b60 11b62-11b64 11b66 11dd9 16ff2-16ff3 1e6e3",
  "1e6e6 1e6ee-1e6ef 1e6f5 1e6ff"]

/-- Characters that do not end the word whose case is looked at. -/
def caseIgnorableChars : CharSet := caseIgnorable.union (readRanges addedCaseIgnorableRows)

/-- Added alphabetic characters. -/
def addedAlphabeticRows : List String := [
  "88f c5c cdc a7ce-a7cf a7d2 a7d4 a7f1 10940-10959 10ec5-10ec7 10efa-10efb 11b60-11b67",
  "11db0-11ddb 16ea0-16eb8 16ebb-16ed3 16ff2-16ff6 187f8-187ff 18d09-18d1e 18d80-18df2",
  "1e6c0-1e6de 1e6e0-1e6f5 1e6fe-1e6ff 2b73a-2b73f 2cea2-2cead 323b0-33479"]

def alphabeticChars : CharSet := alphabetic.union (readRanges addedAlphabeticRows)

/-- Added numbers. -/
def addedNumberRows : List String := [
  "11de0-11de9 16ff4-16ff6"]

/-- Characters with a numeric value of any kind. -/
def numericChars : CharSet := (category ["Nd", "Nl", "No"]).union (readRanges addedNumberRows)

/-- Added characters that are printed on their own. -/
def addedPrintedRows : List String := [
  "88f c5c cdc 20c1 2b96 a7ce-a7cf a7d2 a7d4 a7f1 fbc3-fbd2 fd90-fd91 fdc8-fdce 10940-10959",
  "10ec5-10ec7 10ed0-10ed8 11b61 11b65 11b67 11db0-11ddb 11de0-11de9 16ea0-16eb8 16ebb-16ed3",
  "16ff2-16ff6 187f8-187ff 18d09-18d1e 18d80-18df2 1ccfa-1ccfc 1ceba-1ced0 1cee0-1cef0",
  "1e6c0-1e6de 1e6e0-1e6e2 1e6e4-1e6e5 1e6e7-1e6ed 1e6f0-1e6f4 1e6fe-1e6ff 1f6d8 1f777-1f77a",
  "1f8d0-1f8d8 1fa54-1fa57 1fa8a 1fa8e 1fac8 1facd 1faea 1faef 1fbfa 2b73a-2b73f 2cea2-2cead",
  "323b0-33479"]

end Feel.Unicode
