import RecordMapper.Document.Metadata
import RecordMapper.Document.Script
import RecordMapper.Document.Settings
import RecordMapper.Engine.Basic
import RecordMapper.Json.Fault
import RecordMapper.Model.Outline
import RecordMapper.Model.Shape
import RecordMapper.Proofs.ClauseGrammar
import RecordMapper.Proofs.PieceLexemes
import RecordMapper.Sql.Reads
import RecordMapper.Sql.Tables
import RecordMapper.Work.Close
import RecordMapper.Work.Reads
import RecordMapper.Work.Writes
import RecordMapper.Proofs.ClauseReading
import RecordMapper.Proofs.ConditionFormulas
import RecordMapper.Proofs.FormulaMeaning
import RecordMapper.Proofs.WhereText
import RecordMapper.Proofs.WhereGuard
import RecordMapper.Proofs.Unclosed
import RecordMapper.Proofs.WorkCalls
import RecordMapper.Proofs.WorkSteps
import RecordMapper.Proofs.WorkEffects
import RecordMapper.Proofs.CallEffects
import RecordMapper.Proofs.WorkRuns
import RecordMapper.Proofs.WorkEnds
import RecordMapper.Proofs.WorkAtomicity
import RecordMapper.Proofs.WorkMirroring
import RecordMapper.Proofs.KeyRuns
import RecordMapper.Proofs.KeyUniqueness
import RecordMapper.Proofs.ModelRecords
import RecordMapper.Proofs.StoredObjects
import RecordMapper.Proofs.UpdateBatches
import RecordMapper.Proofs.ModelTables
import RecordMapper.Proofs.SplitUpdates
import RecordMapper.Proofs.PagedReads
import RecordMapper.Proofs.ClosedWork
import RecordMapper.Proofs.BoundValues
import RecordMapper.Proofs.CheckedNames
import RecordMapper.Proofs.Preparations
import RecordMapper.Proofs.RejectedReads
import RecordMapper.Proofs.RejectedWrites
import RecordMapper.Proofs.UpdateTexts
import RecordMapper.Proofs.RowUpdates
import RecordMapper.Proofs.MatchedRows
import RecordMapper.Proofs.StoredTotals
import RecordMapper.Proofs.Runs
import RecordMapper.Proofs.ChunkedBatches
import RecordMapper.Proofs.PagePartition
import RecordMapper.Proofs.PageCounts
import RecordMapper.Proofs.FreshKeys
import RecordMapper.Proofs.KeyedObjects
import RecordMapper.Proofs.SavedObjects
import RecordMapper.Proofs.FirstRows
import RecordMapper.Proofs.ComplexPages
import RecordMapper.Proofs.ExistingRows
import RecordMapper.Proofs.ConditionUpdates
import RecordMapper.Proofs.SoundModels
import RecordMapper.Proofs.InferredKinds
import RecordMapper.Proofs.ConditionFaults
import RecordMapper.Proofs.SourceReading
import RecordMapper.Proofs.SourceTexts
import RecordMapper.Proofs.QuotedNames
import RecordMapper.Proofs.NamePatterns
import RecordMapper.Proofs.BuildOrder
import RecordMapper.Proofs.RowColumns
import RecordMapper.Draft
import RecordMapper.Proofs.Drafts
