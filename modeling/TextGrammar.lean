import TextGrammar.Attempt.Handwritten
import TextGrammar.Calculation
import TextGrammar.Constant
import TextGrammar.Session
import TextGrammar.Proofs.Expression.Reading
import TextGrammar.Proofs.QuotedText.Agreement
import TextGrammar.Proofs.Repetition.Rounds
import TextGrammar.Proofs.Observation
import TextGrammar.Proofs.KeptText
import TextGrammar.Proofs.QuotedText.Spelling
import TextGrammar.Proofs.NestedArray.Reading
import TextGrammar.Proofs.Silence
import TextGrammar.Proofs.Wording.Grammar
import TextGrammar.Proofs.Expression.Grouping
import TextGrammar.Proofs.Expression.Evaluation
import TextGrammar.Proofs.RebuiltRecursion
import TextGrammar.Proofs.Placeholder
import TextGrammar.Proofs.NestedTree
import TextGrammar.Proofs.Grammar.SignedInteger
import TextGrammar.Proofs.Repetition.Composition
import TextGrammar.Proofs.Repetition.ConvertedValues
import TextGrammar.Proofs.Text.Occurrence
import TextGrammar.Proofs.Attempt.Leading
import TextGrammar.Proofs.Numeral.DecimalNotation
import TextGrammar.Proofs.Repetition.Delimited
import TextGrammar.Proofs.Grammar.DecimalNumber
import TextGrammar.Proofs.Repetition.Resumption
import TextGrammar.Proofs.Grammar.Excerpt
import TextGrammar.Proofs.Grammar.Bracketing
import TextGrammar.Proofs.Grammar.Alternation
import TextGrammar.Proofs.Grammar.EmptyInput
import TextGrammar.Proofs.Grammar.ConvertedDigits
import TextGrammar.Proofs.Grammar.Delimiter
import TextGrammar.Proofs.Repetition.Span
import TextGrammar.Proofs.Grammar.Promotion
