import Feel.Main
import Feel.Proofs.StableSort
import Feel.Proofs.DecimalValue
import Feel.Proofs.WorkingPrecision
import Feel.Proofs.TextCuts
import Feel.Proofs.Numerals
import Feel.Proofs.CalendarTexts
import Feel.Proofs.DayNumbers
import Feel.Proofs.CalendarMonths
import Feel.Proofs.PlainText
import Feel.Proofs.Timelines
import Feel.Proofs.ZonedInstants
import Feel.Proofs.ZonedTexts
import Feel.Proofs.DateLiterals
import Feel.Proofs.Provenance
import Feel.Proofs.Provenance.Functions
import Feel.Proofs.Produced
import Feel.Proofs.OffsetTexts
import Feel.Proofs.TimeTexts
import Feel.Proofs.WholeDecimals
import Feel.Proofs.DurationLiterals
import Feel.Proofs.DurationTexts
import Feel.Proofs.DurationGrammar
import Feel.Proofs.DurationOutcomes
import Feel.Proofs.HeldNumbers
import Feel.Proofs.Sessions
import Feel.Proofs.SessionBounds
import Feel.Proofs.NumberForms
import Feel.Proofs.ComparatorSorts
import Feel.Proofs.ValueEquality
import Feel.Proofs.CallSequences
import Feel.Proofs.DocumentLiterals
import Feel.Proofs.FunctionNames
import Feel.Proofs.FaultOrigins
import Feel.Proofs.NullArguments
import Feel.Proofs.ScriptRuns
import Feel.Proofs.ScriptComments
import Feel.Proofs.Conjunctions
import Feel.Proofs.NearestDecimals
import Feel.Proofs.DecimalPlaces
import Feel.Proofs.OffsetForms
import Feel.Proofs.WholeRanges
import Feel.Proofs.Quotients
import Feel.Proofs.Totals
import Feel.Proofs.Means
import Feel.Proofs.Remainders
import Feel.Proofs.Positions
import Feel.Proofs.Sublists
import Feel.Proofs.DistinctValues
import Feel.Proofs.EqualItems
import Feel.Proofs.NestedLists
import Feel.Proofs.Substrings
import Feel.Proofs.TextSearch
import Feel.Proofs.VerbatimPatterns
import Feel.Proofs.ReplacementTemplates
import Feel.Proofs.PatternPrograms
import Feel.Proofs.PatternSearches
import Feel.Proofs.SuccessiveMatches
import Feel.Proofs.Replacements
import Feel.Proofs.GroupedNumerals
import Feel.Proofs.MonthsBetween
import Feel.Proofs.CombinedTimes
import Feel.Proofs.DateTimeLiterals
import Feel.Proofs.DateTimeFields
import Feel.Proofs.DurationComponents
import Feel.Proofs.ContextBindings
