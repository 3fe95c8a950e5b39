import CloudLookup.Describe.Api
import CloudLookup.Markup.Element

/-! The shapes of the interfaces' XML answers. -/
namespace CloudLookup.Api

open Markup (Shapes)

def elastiCacheShapes : Shapes where
  lists :=
    ["CacheClusters", "CacheNodes", "CacheSecurityGroups", "SecurityGroups", "CacheNodeIdsToRemove",
     "CacheNodeIdsToReboot", "LogDeliveryConfigurations"]
  integers := ["NumCacheNodes", "Port", "SnapshotRetentionLimit"]
  booleans :=
    ["AutoMinorVersionUpgrade", "AuthTokenEnabled", "TransitEncryptionEnabled",
     "AtRestEncryptionEnabled", "ReplicationGroupLogDeliveryEnabled"]

def rdsShapes : Shapes where
  lists :=
    ["DBInstances", "DBSecurityGroups", "VpcSecurityGroups", "DBParameterGroups", "Subnets",
     "SupportedNetworkTypes", "ReadReplicaDBInstanceIdentifiers", "ReadReplicaDBClusterIdentifiers",
     "OptionGroupMemberships", "StatusInfos", "DomainMemberships", "DnsIps",
     "EnabledCloudwatchLogsExports", "LogTypesToEnable", "LogTypesToDisable", "ProcessorFeatures",
     "AssociatedRoles", "TagList", "DBInstanceAutomatedBackupsReplications"]
  integers :=
    ["AllocatedStorage", "BackupRetentionPeriod", "Port", "DbInstancePort", "Iops",
     "MonitoringInterval", "PromotionTier", "PerformanceInsightsRetentionPeriod",
     "MaxAllocatedStorage", "StorageThroughput"]
  booleans :=
    ["MultiAZ", "AutoMinorVersionUpgrade", "PubliclyAccessible", "StorageEncrypted",
     "CopyTagsToSnapshot", "IAMDatabaseAuthenticationEnabled", "PerformanceInsightsEnabled",
     "DeletionProtection", "CustomerOwnedIpEnabled", "Normal", "DedicatedLogVolume", "MultiTenant",
     "IsStorageConfigUpgradeAvailable"]

def ec2Shapes : Shapes where
  lists :=
    ["vpcSet", "subnetSet", "securityGroupInfo", "tagSet", "cidrBlockAssociationSet",
     "ipv6CidrBlockAssociationSet", "ipPermissions", "ipPermissionsEgress", "ipRanges",
     "ipv6Ranges", "prefixListIds", "groups"]
  integers := ["availableIpAddressCount", "fromPort", "toPort", "enableLniAtDeviceIndex"]
  booleans :=
    ["isDefault", "defaultForAz", "mapPublicIpOnLaunch", "mapCustomerOwnedIpOnLaunch",
     "assignIpv6AddressOnCreation", "enableDns64", "ipv6Native", "enableResourceNameDnsARecord",
     "enableResourceNameDnsAAAARecord"]

def shapes : Api → Shapes
  | elastiCache => elastiCacheShapes
  | rds => rdsShapes
  | ec2 => ec2Shapes
  | elasticsearch | kinesis | dynamoDb => Shapes.none

end CloudLookup.Api
