import PathHeader.FileSystem.Build
import PathHeader.Proofs.EditScript
import PathHeader.Proofs.Endings
import PathHeader.Proofs.Interruption
import PathHeader.Proofs.OffLimits
import PathHeader.Proofs.Rewriting
import PathHeader.Proofs.SecondRun
import PathHeader.Proofs.Terminators
import PathHeader.Proofs.Renaming
import PathHeader.Proofs.DistinctKeys
import PathHeader.Proofs.Layering
import PathHeader.Proofs.Exclusion
import PathHeader.Proofs.NameLists
import PathHeader.Proofs.SamePlace
import PathHeader.Proofs.Counting
import PathHeader.Proofs.NormalForm
import PathHeader.Proofs.Casing
import PathHeader.Proofs.Colours
