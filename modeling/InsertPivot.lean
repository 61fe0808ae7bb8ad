import InsertPivot.Main
import InsertPivot.Proofs.Options
import InsertPivot.Proofs.Outcomes
import InsertPivot.Proofs.Pairing
import InsertPivot.Proofs.RangeGrammar
import InsertPivot.Proofs.Sessions
import InsertPivot.Proofs.Strings
import InsertPivot.Proofs.Terminators
