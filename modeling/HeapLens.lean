import HeapLens.Error
import HeapLens.Memory.Live
import HeapLens.Session
import HeapLens.Proofs.CursorStep
import HeapLens.Proofs.DictListing
import HeapLens.Proofs.CursorCalls
import HeapLens.Proofs.ListCalls
import HeapLens.Proofs.DictCalls
import HeapLens.Proofs.SessionPulls
import HeapLens.Proofs.DisplayNesting
import HeapLens.Proofs.SnapshotRegions
import HeapLens.Proofs.SnapshotHistory
import HeapLens.Proofs.PartsInside
import HeapLens.Proofs.CursorYields
import HeapLens.Proofs.MemoryExtension
import HeapLens.Proofs.DictReach
import HeapLens.Proofs.ItemsShown
import HeapLens.Proofs.RuntimeHook
import HeapLens.Proofs.ScalarPlace
import HeapLens.Proofs.ThroughPointer
import HeapLens.Proofs.DemandReads
import HeapLens.Proofs.ListListing
import HeapLens.Proofs.TypedefTransparency
import HeapLens.Proofs.CursorEnding
import HeapLens.Proofs.LogLines
import HeapLens.Proofs.IntegerReads
import HeapLens.Proofs.RecordLayout
import HeapLens.Proofs.TextCut
import HeapLens.Proofs.TableHistory
import HeapLens.Proofs.HookOrder
import HeapLens.Proofs.ReadsInParts
import HeapLens.Proofs.PartsByStep
import HeapLens.Proofs.TypedefTrails
import HeapLens.Proofs.SpellingTrails
import HeapLens.Proofs.QuotedReading
