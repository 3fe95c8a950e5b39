import CloudLookup.Describe.Api
import CloudLookup.Text.Blank

/-! The calls that describe resources. -/
namespace CloudLookup

inductive Call where
  | cacheClusters (clusterId : String)
  | elasticsearchDomain (domainName : String)
  | vpcs (tagValue : String)
  | subnets (tagValue : String)
  | securityGroups (groupName vpcId : String)
  | stream (streamName : String)
  | table (tableName : String)
  | dbInstances (identifier : String)
  deriving DecidableEq, Repr

namespace Call

def api : Call → Api
  | cacheClusters _ => .elastiCache
  | elasticsearchDomain _ => .elasticsearch
  | vpcs _ | subnets _ | securityGroups _ _ => .ec2
  | stream _ => .kinesis
  | table _ => .dynamoDb
  | dbInstances _ => .rds

def action : Call → String
  | cacheClusters _ => "DescribeCacheClusters"
  | elasticsearchDomain _ => "DescribeElasticsearchDomain"
  | vpcs _ => "DescribeVpcs"
  | subnets _ => "DescribeSubnets"
  | securityGroups _ _ => "DescribeSecurityGroups"
  | stream _ => "DescribeStream"
  | table _ => "DescribeTable"
  | dbInstances _ => "DescribeDBInstances"

def render (c : Call) : String := s!"{c.api.endpointName}:{c.action}"

end Call

/-- A region argument counts only when it is not blank. -/
def Region.given? (region : Option String) : Option String :=
  (region.map Text.trim).filter fun r => !r.isEmpty

structure Question where
  call : Call
  region : Option String
  deriving DecidableEq, Repr

end CloudLookup
